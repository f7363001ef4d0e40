import StoreBench.Blob.Client
import StoreBench.Proofs.Footprint
import StoreBench.Proofs.Random.Always

/-!
Loads of the table and requests of several clients, one after another. As long as nobody else has to
do with the table, it is absent, it has no row, or it has one.
-/
namespace StoreBench.Blob

open StoreBench.Random

/-- A load, with a stream of its own to draw from, or something that one of `n` clients does. -/
inductive Call (n : Nat) where
  | load (size : Nat) (stream : Stream)
  | execute (i : Fin n) (r : Request)
  | step (i : Fin n)

/-- What came of a call, with the payload that was to be stored, or that the client would write. -/
inductive Entry where
  | load (size : Nat) (payload : List UInt8) (result : Except Abort Unit)
  | request (r : Request) (own : List UInt8) (result : Except Failure Outcome)

/-- Clients and the database that they share. -/
structure Session (n : Nat) where
  clients : Vector Client n
  store : Store

namespace Session

variable {n : Nat}

def client (s : Session n) (i : Fin n) : Client := s.clients.get i

theorem client_withStore (s : Session n) (store : Store) (i : Fin n) :
    ({ s with store } : Session n).client i = s.client i := rfl

def call (s : Session n) : Call n → Entry × Session n
  | .load size stream =>
    let (result, _, store) := s.store.loadDrawn size stream
    (.load size ((drawBytes size).value stream) result, { s with store })
  | .execute i r =>
    let (result, store) := (s.client i).execute r s.store
    (.request r (s.client i).payload result, { s with store })
  | .step i =>
    let (result, client, store) := (s.client i).step s.store
    (.request (s.client i).requests.next.1 (s.client i).payload result,
      ⟨s.clients.set i client, store⟩)

def run (s : Session n) : List (Call n) → List Entry × Session n
  | [] => ([], s)
  | c :: calls =>
    let (e, s) := s.call c
    let (history, s) := s.run calls
    (e :: history, s)

def start (clients : Vector Client n) : Session n := ⟨clients, .bare⟩

end Session

inductive Contents where
  | absent
  | cleared
  | row (payload : List UInt8)

def Contents.store : Contents → Store
  | absent => .bare
  | cleared => ⟨some []⟩
  | row payload => .create payload

/-- What can come of a call, and what it leaves in the database. -/
inductive Answers : Contents → Entry → Contents → Prop where
  | loadNothing {c : Contents} {payload : List UInt8} {f : Failure} (hl : payload.length = 0) :
      Answers c (.load 0 payload (.error (.failure f))) c
  | load {c : Contents} {size : Nat} {payload : List UInt8} (hl : payload.length = size)
      (hpos : 0 < size) (hle : size ≤ maxSize) :
      Answers c (.load size payload (.ok ())) (.row payload)
  | loadTooBig {c : Contents} {size : Nat} {payload : List UInt8} {f : Failure}
      (hl : payload.length = size) (hlt : maxSize < size) (hle : size ≤ maxAllocation) :
      Answers c (.load size payload (.error (.failure f))) .cleared
  | loadPanics {c : Contents} {size : Nat} {payload : List UInt8} (hl : payload.length = size)
      (hlt : maxAllocation < size) :
      Answers c (.load size payload (.error .capacityOverflow)) c
  | noTable {r : Request} {own : List UInt8} {f : Failure} :
      Answers .absent (.request r own (.error f)) .absent
  | miss {r : Request} {own : List UInt8} (h : r = .write → own.length ≤ maxLength) :
      Answers .cleared (.request r own (.ok .missing)) .cleared
  | missTooBig {own : List UInt8} {f : Failure} (h : maxLength < own.length) :
      Answers .cleared (.request .write own (.error f)) .cleared
  | read {payload own : List UInt8} :
      Answers (.row payload) (.request .read own (.ok .success)) (.row payload)
  | write {payload own : List UInt8} (h : own.length ≤ maxSize) :
      Answers (.row payload) (.request .write own (.ok .success)) (.row own)
  | writeTooBig {payload own : List UInt8} {f : Failure} (h : maxSize < own.length) :
      Answers (.row payload) (.request .write own (.error f)) (.row payload)

/-- Who notes during what a request failed changes nothing else. -/
theorem Answers.during {c d : Contents} {r : Request} {own : List UInt8}
    {result : Except Failure Outcome} (h : Answers c (.request r own result) d) (a : Activity) :
    Answers c (.request r own (StoreBench.during a result)) d := by
  cases h with
  | noTable => exact .noTable
  | miss h => exact .miss h
  | missTooBig h => exact .missTooBig h
  | read => exact .read
  | write h => exact .write h
  | writeTooBig h => exact .writeTooBig h

/-- Where the limit for a blob comes from: about the limit for a row, its header has six bytes. -/
theorem rowLength_blob_le_iff {bytes : List UInt8} :
    rowLength [.blob bytes] ≤ maxLength ↔ bytes.length ≤ maxSize := by
  have hrow : rowLength [.blob bytes] =
      headerLength (varintLength (2 * bytes.length + 12)) + bytes.length := by
    simp [rowLength_eq, Cell.typeLength, Cell.length]
  have hlog {n : Nat} (h : 2 ^ 28 ≤ n) (h' : n < 2 ^ 35) : headerLength (varintLength n) = 6 := by
    have hne : n ≠ 0 := by omega
    have hle := (Nat.le_log2 hne).mpr h
    have hlt := (Nat.log2_lt hne).mpr h'
    have hvarint : varintLength n = 5 := by
      unfold varintLength
      omega
    rw [hvarint]
    decide
  rw [hrow, maxSize, maxLength]
  by_cases hsmall : 2 * bytes.length + 12 < 2 ^ 28
  · have hheader := headerLength_le (varintLength (2 * bytes.length + 12))
    have hvarint : varintLength (2 * bytes.length + 12) ≤ 4 := by
      have hlt := (Nat.log2_lt (by omega)).mpr hsmall
      unfold varintLength
      omega
    omega
  · by_cases hlarge : 2 * bytes.length + 12 < 2 ^ 35
    · rw [hlog (Nat.le_of_not_lt hsmall) hlarge]
      omega
    · omega

theorem excess?_eq_none_iff {n : Nat} : Store.excess? n = none ↔ n ≤ maxSize := by
  rw [Store.excess?, Option.orElse_eq_orElse, Option.orElse_eq_or, Option.or_eq_none_iff,
    overlong?_eq_none_iff]
  have hle : maxSize ≤ maxLength := Nat.sub_le _ _
  by_cases h : maxSize < n
  · simp [h, Nat.not_le_of_lt h]
  · have hn := Nat.le_of_not_lt h
    simp [h, hn, hn.trans hle]

theorem lt_of_excess? {n : Nat} {e : DatabaseError} (h : Store.excess? n = some e) :
    maxSize < n := by
  rw [← Nat.not_le, ← excess?_eq_none_iff, h]
  exact Option.some_ne_none e

theorem lt_of_overlong? {n : Nat} {e : DatabaseError} (h : overlong? n = some e) :
    maxLength < n := by
  rw [← Nat.not_le, ← overlong?_eq_none_iff, h]
  exact Option.some_ne_none e

section Loading

variable {size : Nat} (stream : Stream) (s : Store)

theorem loadDrawn_zero :
    s.loadDrawn 0 stream = (.error (.failure (.ofCause .emptyPayload)), [], s) := rfl

theorem loadDrawn_eq_panic (hlt : maxAllocation < size) :
    s.loadDrawn size stream = (.error .capacityOverflow, [], s) := by
  rw [Store.loadDrawn, if_neg (Nat.ne_of_gt (Nat.zero_lt_of_lt hlt)), if_pos hlt]

theorem loadDrawn_eq_ok (hpos : 0 < size) (hle : size ≤ maxSize) :
    s.loadDrawn size stream =
      (.ok (), [.loadedBlob size], .create ((drawBytes size).value stream)) := by
  have hmemory : ¬maxAllocation < size := Nat.not_lt.mpr (hle.trans (by decide))
  rw [Store.loadDrawn, if_neg (Nat.ne_of_gt hpos), if_neg hmemory, excess?_eq_none_iff.mpr hle]

theorem loadDrawn_eq_error (hlt : maxSize < size) (hle : size ≤ maxAllocation) :
    ∃ e, s.loadDrawn size stream =
      (.error (.failure ((Failure.ofDatabase e).during .loadingBlob)), [], ⟨some []⟩) := by
  cases he : Store.excess? size with
  | none => exact absurd (excess?_eq_none_iff.mp he) (Nat.not_le_of_lt hlt)
  | some e =>
    refine ⟨e, ?_⟩
    rw [Store.loadDrawn, if_neg (Nat.ne_of_gt (Nat.zero_lt_of_lt hlt)),
      if_neg (Nat.not_lt.mpr hle), he]

end Loading

theorem Session.call_load_eq_ok {n : Nat} (s : Session n) {size : Nat} (stream : Stream)
    (hpos : 0 < size) (hle : size ≤ maxSize) :
    s.call (.load size stream) =
      (.load size ((drawBytes size).value stream) (.ok ()),
        { s with store := .create ((drawBytes size).value stream) }) := by
  unfold call
  simp only [loadDrawn_eq_ok stream s.store hpos hle]

theorem load_answers (c : Contents) (size : Nat) (stream : Stream) :
    ∃ d : Contents, (c.store.loadDrawn size stream).2.2 = d.store ∧
      Answers c (.load size ((drawBytes size).value stream)
        (c.store.loadDrawn size stream).1) d := by
  have hl : ((drawBytes size).value stream).length = size := drawBytes_always size stream
  obtain rfl | hpos := Nat.eq_zero_or_pos size
  · rw [loadDrawn_zero]
    exact ⟨c, rfl, .loadNothing hl⟩
  · by_cases hmemory : maxAllocation < size
    · rw [loadDrawn_eq_panic stream c.store hmemory]
      exact ⟨c, rfl, .loadPanics hl hmemory⟩
    · have hmemory := Nat.le_of_not_lt hmemory
      by_cases hlt : maxSize < size
      · obtain ⟨e, he⟩ := loadDrawn_eq_error stream c.store hlt hmemory
        rw [he]
        exact ⟨.cleared, rfl, .loadTooBig hl hlt hmemory⟩
      · rw [loadDrawn_eq_ok stream c.store hpos (Nat.le_of_not_lt hlt)]
        exact ⟨.row _, rfl, .load hl hpos (Nat.le_of_not_lt hlt)⟩

section Requests

variable (client : Client)

theorem read_answers (c : Contents) :
    Answers c (.request .read client.payload (client.execute .read c.store).1) c := by
  cases c with
  | absent => exact .noTable
  | cleared => exact .miss fun h => by cases h
  | row payload => exact .read

theorem write_cleared (own : List UInt8) :
    Store.write own ⟨some []⟩ = match overlong? own.length with
      | some e => (.error (.ofDatabase e), ⟨some []⟩)
      | none => (.ok .missing, ⟨some []⟩) := by
  simp only [Store.write, Store.rows]
  cases overlong? own.length <;> rfl

theorem write_create (own payload : List UInt8) :
    Store.write own (.create payload) = match Store.excess? own.length with
      | some e => (.error (.ofDatabase e), .create payload)
      | none => (.ok .success, .create own) := by
  simp only [Store.write, Store.rows, Store.create, Store.excess?]
  cases overlong? own.length with
  | some e => rfl
  | none => by_cases h : maxSize < own.length <;> simp [h, Outcome.ofHit]

theorem write_answers (c : Contents) :
    ∃ d : Contents, (client.execute .write c.store).2 = d.store ∧
      Answers c (.request .write client.payload (client.execute .write c.store).1) d := by
  cases c with
  | absent => exact ⟨.absent, rfl, .noTable⟩
  | cleared =>
    rw [Client.execute, Contents.store, write_cleared]
    cases h : overlong? client.payload.length with
    | some e => exact ⟨.cleared, rfl, .missTooBig (lt_of_overlong? h)⟩
    | none => exact ⟨.cleared, rfl, .miss fun _ => overlong?_eq_none_iff.mp h⟩
  | row payload =>
    rw [Client.execute, Contents.store, write_create]
    cases h : Store.excess? client.payload.length with
    | some e => exact ⟨.row payload, rfl, .writeTooBig (lt_of_excess? h)⟩
    | none => exact ⟨.row client.payload, rfl, .write (excess?_eq_none_iff.mp h)⟩

theorem execute_answers (c : Contents) (r : Request) :
    ∃ d : Contents, (client.execute r c.store).2 = d.store ∧
      Answers c (.request r client.payload (client.execute r c.store).1) d := by
  cases r with
  | read => exact ⟨c, rfl, read_answers client c⟩
  | write => exact write_answers client c

end Requests

namespace Session

variable {n : Nat} {s : Session n} {c : Contents}

theorem call_answers (h : s.store = c.store) (a : Call n) :
    ∃ d : Contents, (s.call a).2.store = d.store ∧ Answers c (s.call a).1 d := by
  cases a with
  | load size stream =>
    unfold call
    rw [h]
    exact load_answers c size stream
  | execute i r =>
    unfold call
    rw [h]
    exact execute_answers (s.client i) c r
  | step i =>
    unfold call Client.step
    rw [h]
    obtain ⟨d, hd, ha⟩ := execute_answers (s.client i) c (s.client i).requests.next.1
    exact ⟨d, hd, ha.during _⟩

/-- No client ever changes its payload. -/
theorem payload_call (s : Session n) (a : Call n) (i : Fin n) :
    ((s.call a).2.client i).payload = (s.client i).payload := by
  cases a with
  | load size stream => rfl
  | execute j r => rfl
  | step j =>
    show (s.clients.set j _)[(i : Nat)].payload = s.clients[(i : Nat)].payload
    by_cases h : (j : Nat) = i
    · obtain rfl := Fin.ext h
      rw [Vector.getElem_set_self]
      rfl
    · rw [Vector.getElem_set_ne _ _ h]

end Session

/-- A history that can be, from some contents to others. -/
inductive Follows : Contents → List Entry → Contents → Prop where
  | nil {c : Contents} : Follows c [] c
  | cons {c d last : Contents} {e : Entry} {history : List Entry} (h : Answers c e d)
      (hs : Follows d history last) : Follows c (e :: history) last

theorem Follows.of_append {c last : Contents} {before after : List Entry}
    (h : Follows c (before ++ after) last) : ∃ d, Follows c before d ∧ Follows d after last := by
  induction before generalizing c with
  | nil => exact ⟨c, .nil, h⟩
  | cons e before ih =>
    obtain - | ⟨ha, hs⟩ := h
    obtain ⟨d, hd, hlast⟩ := ih hs
    exact ⟨d, .cons ha hd, hlast⟩

namespace Session

variable {n : Nat}

theorem run_follows {s : Session n} {c : Contents} (h : s.store = c.store) (calls : List (Call n)) :
    ∃ d : Contents, (s.run calls).2.store = d.store ∧ Follows c (s.run calls).1 d := by
  induction calls generalizing s c with
  | nil => exact ⟨c, h, .nil⟩
  | cons a calls ih =>
    obtain ⟨d, hd, ha⟩ := call_answers h a
    obtain ⟨last, hlast, hs⟩ := ih hd
    exact ⟨last, hlast, .cons ha hs⟩

theorem payload_run (s : Session n) (calls : List (Call n)) (i : Fin n) :
    ((s.run calls).2.client i).payload = (s.client i).payload := by
  induction calls generalizing s with
  | nil => rfl
  | cons a calls ih => exact (ih (s.call a).2).trans (s.payload_call a i)

end Session

/-- A client can be made if there is memory for its payload. -/
theorem ofRequests_cases (m : Mix) (r : Requests) :
    (m.payloadSize ≤ maxAllocation ∧ ∃ c, Client.ofRequests m r = .ok c ∧
      c.payload.length = m.payloadSize) ∨
    (maxAllocation < m.payloadSize ∧ Client.ofRequests m r = .error .capacityOverflow) := by
  unfold Client.ofRequests Requests.payload
  by_cases h : maxAllocation < m.payloadSize
  · rw [if_pos h]
    exact .inr ⟨h, rfl⟩
  · rw [if_neg h]
    exact .inl ⟨Nat.le_of_not_lt h, _, rfl, drawBytes_always m.payloadSize r.stream⟩

end StoreBench.Blob
