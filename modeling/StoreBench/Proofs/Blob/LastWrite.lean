import StoreBench.Proofs.Blob.Calls

/-!
The table has one row, which the last writer wrote, from the first load that succeeds on. Only a
load of more bytes than a row may have leaves it without one, until the next load.
-/
namespace StoreBench.Blob

open StoreBench.Random

namespace Entry

/-- Whether the call is a load that makes the table anew, be it that it succeeds or fails. One of
nothing does not, nor one of more bytes than there can be. -/
def remakes : Entry → Bool
  | .load size _ _ => size != 0 && size ≤ maxAllocation
  | .request .. => false

/-- The payload that a client has written. -/
def written? : Entry → Option (List UInt8)
  | .request .write own (.ok .success) => some own
  | _ => none

def Fails : Entry → Prop
  | .load .. => True
  | .request _ _ result => ∃ f, result = .error f

/-- A request has an outcome, unless it is to write more bytes than a limit allows. -/
def Gives (outcome : Outcome) (limit : Nat) : Entry → Prop
  | .load .. => True
  | .request r own result =>
    if r = .write ∧ limit < own.length then ∃ f, result = .error f else result = .ok outcome

theorem remakes_load {size : Nat} {payload : List UInt8} {result : Except Abort Unit} :
    (load size payload result).remakes = false ↔ size = 0 ∨ maxAllocation < size := by
  simp [remakes, imp_iff_not_or]

theorem gives_ok {r : Request} {own : List UInt8} {outcome : Outcome} {limit : Nat}
    (h : r = .write → own.length ≤ limit) : (request r own (.ok outcome)).Gives outcome limit := by
  have hn : ¬ (r = .write ∧ limit < own.length) := fun hw => Nat.not_lt.mpr (h hw.1) hw.2
  show if _ then _ else _
  rw [if_neg hn]

theorem gives_error {own : List UInt8} {f : Failure} {outcome : Outcome} {limit : Nat}
    (h : limit < own.length) : (request .write own (.error f)).Gives outcome limit := by
  show if _ then _ else _
  rw [if_pos ⟨rfl, h⟩]
  exact ⟨f, rfl⟩

end Entry

section Answering

variable {c d : Contents} {e : Entry}

theorem Answers.size (h : Answers c e d) {size : Nat} {payload : List UInt8}
    {result : Except Abort Unit} (he : e = .load size payload result) :
    payload.length = size ∧ (result = .ok () ↔ 0 < size ∧ size ≤ maxSize) ∧
      (result = .error .capacityOverflow ↔ maxAllocation < size) := by
  have hle : maxSize ≤ maxAllocation := by decide
  cases h with
  | loadNothing hl =>
    cases he
    exact ⟨hl, by simp, by simp [Abort.capacityOverflow]⟩
  | load hl hpos hsize =>
    cases he
    exact ⟨hl, by simp [hpos, hsize], by simp [hsize.trans hle]⟩
  | loadTooBig hl hlt hsize =>
    cases he
    exact ⟨hl, by simp [hlt], by simp [Abort.capacityOverflow, hsize]⟩
  | loadPanics hl hlt =>
    cases he
    exact ⟨hl, by simp [hle.trans_lt hlt], by simp [hlt]⟩
  | noTable | miss | missTooBig | read | write | writeTooBig => cases he

/-- A call that does not make the table anew is a load that comes to nothing or a request. -/
theorem Answers.load_or_request (h : Answers c e d) (hr : e.remakes = false) :
    (d = c ∧ ∃ size payload a, e = .load size payload (.error a)) ∨
      ∃ r own result, e = .request r own result := by
  cases h with
  | loadNothing => exact .inl ⟨rfl, _, _, _, rfl⟩
  | loadPanics => exact .inl ⟨rfl, _, _, _, rfl⟩
  | load hl hpos hsize =>
    have hle : maxSize ≤ maxAllocation := by decide
    rcases Entry.remakes_load.mp hr with hz | hlt <;> omega
  | loadTooBig hl hlt hsize =>
    rcases Entry.remakes_load.mp hr with hz | hlt <;> omega
  | noTable | miss | missTooBig | read | write | writeTooBig => exact .inr ⟨_, _, _, rfl⟩

/-- Calls that neither make the table anew nor write leave it as it is. -/
theorem Answers.stays (h : Answers c e d) (hr : e.remakes = false) (hw : e.written? = none) :
    d = c := by
  obtain ⟨hd, -⟩ | ⟨r, own, result, rfl⟩ := h.load_or_request hr
  · exact hd
  · cases h with
    | write => cases hw
    | noTable | miss | missTooBig | read | writeTooBig => rfl

theorem Answers.of_absent (h : Answers .absent e d) (hr : e.remakes = false) :
    d = .absent ∧ e.Fails := by
  obtain ⟨rfl, size, payload, a, rfl⟩ | ⟨r, own, result, rfl⟩ := h.load_or_request hr
  · exact ⟨rfl, trivial⟩
  · cases h with
    | noTable => exact ⟨rfl, _, rfl⟩

theorem Answers.of_cleared (h : Answers .cleared e d) (hr : e.remakes = false) :
    d = .cleared ∧ e.Gives .missing maxLength := by
  obtain ⟨rfl, size, payload, a, rfl⟩ | ⟨r, own, result, rfl⟩ := h.load_or_request hr
  · exact ⟨rfl, trivial⟩
  · cases h with
    | miss h => exact ⟨rfl, Entry.gives_ok h⟩
    | missTooBig h => exact ⟨rfl, Entry.gives_error h⟩

theorem Answers.of_row {payload : List UInt8} (h : Answers (.row payload) e d)
    (hr : e.remakes = false) :
    d = .row (e.written?.getD payload) ∧ e.Gives .success maxSize := by
  obtain ⟨rfl, size, own, a, rfl⟩ | ⟨r, own, result, rfl⟩ := h.load_or_request hr
  · exact ⟨rfl, trivial⟩
  · cases h with
    | read => exact ⟨rfl, Entry.gives_ok fun hw => by cases hw⟩
    | write h => exact ⟨rfl, Entry.gives_ok fun _ => h⟩
    | writeTooBig h => exact ⟨rfl, Entry.gives_error h⟩

end Answering

section History

variable {c d : Contents} {history : List Entry}

theorem Follows.answers_of_mem (h : Follows c history d) {e : Entry} (he : e ∈ history) :
    ∃ c' d', Answers c' e d' := by
  induction h with
  | nil => cases he
  | cons ha hs ih =>
    rcases List.mem_cons.mp he with rfl | he
    · exact ⟨_, _, ha⟩
    · exact ih he

/-- If no call of some kind changes the contents, none does in a whole history. -/
theorem Follows.of_still {P : Entry → Prop}
    (hstep : ∀ e d, Answers c e d → e.remakes = false → d = c ∧ P e) (h : Follows c history d)
    (hr : ∀ e ∈ history, e.remakes = false) : d = c ∧ ∀ e ∈ history, P e := by
  induction h with
  | nil => exact ⟨rfl, by simp⟩
  | cons ha hs ih =>
    obtain ⟨hhead, htail⟩ := List.forall_mem_cons.mp hr
    obtain ⟨rfl, hp⟩ := hstep _ _ ha hhead
    obtain ⟨hd, hps⟩ := ih hstep htail
    exact ⟨hd, List.forall_mem_cons.mpr ⟨hp, hps⟩⟩

/-- As long as the table is not made anew, the row is what was written last. -/
theorem Follows.of_row {payload : List UInt8} (h : Follows (.row payload) history d)
    (hr : ∀ e ∈ history, e.remakes = false) :
    d = .row ((history.filterMap Entry.written?).getLast?.getD payload) ∧
      ∀ e ∈ history, e.Gives .success maxSize := by
  induction history generalizing payload with
  | nil =>
    cases h
    exact ⟨rfl, by simp⟩
  | cons e history ih =>
    obtain - | ⟨ha, hs⟩ := h
    obtain ⟨hhead, htail⟩ := List.forall_mem_cons.mp hr
    obtain ⟨rfl, hgives⟩ := ha.of_row hhead
    obtain ⟨rfl, hrest⟩ := ih hs htail
    refine ⟨?_, List.forall_mem_cons.mpr ⟨hgives, hrest⟩⟩
    cases hw : e.written? with
    | none => simp [hw]
    | some own => simp [hw, List.getLast?_cons]

/-- What came of a load, and what came after it. -/
theorem Follows.of_load {before after : List Entry} {size : Nat} {payload : List UInt8}
    {result : Except Abort Unit}
    (h : Follows c (before ++ .load size payload result :: after) d) :
    ∃ c' d', Answers c' (.load size payload result) d' ∧ Follows d' after d := by
  obtain ⟨c', -, hrest⟩ := h.of_append
  obtain - | ⟨ha, hs⟩ := hrest
  exact ⟨c', _, ha, hs⟩

end History

/-- Loads of any sizes and requests of any clients, in any order, on a database that has no table
yet. A client can be made if there is memory for its payload, which has the size that its mix tells
and never changes. A load succeeds if it has bytes, but not too many for a row, and panics if it
has more than there can be. Before the first load of bytes that there can be, all requests fail.
From a load that succeeds up to the next such load the table has one row, which is what was written
last, or loaded if nothing was, and all requests succeed, except writes of too many bytes, which
fail. From a load that fails of too many bytes up to the next such load the table has no row. And a
call changes the table only if it writes, or loads bytes that there can be. -/
theorem last_write_stays {n : Nat} (made : Vector (Mix × Requests) n) (clients : Vector Client n)
    (hmade : ∀ i, Client.ofRequests (made.get i).1 (made.get i).2 = .ok (clients.get i))
    (calls : List (Call n)) :
    let first := Session.start clients
    let history := (first.run calls).1
    let s := (first.run calls).2
    (∀ m r, (∃ c, Client.ofRequests m r = .ok c) ↔ m.payloadSize ≤ maxAllocation) ∧
    (∀ i : Fin n, (s.client i).payload = (first.client i).payload ∧
      (s.client i).payload.length = (made.get i).1.payloadSize) ∧
    (∀ size payload result, .load size payload result ∈ history →
      payload.length = size ∧ (result = .ok () ↔ 0 < size ∧ size ≤ maxSize) ∧
        (result = .error (.panic "capacity overflow") ↔ maxAllocation < size)) ∧
    ((∀ e ∈ history, e.remakes = false) → s.store = .bare ∧ ∀ e ∈ history, e.Fails) ∧
    (∀ before size payload after, history = before ++ .load size payload (.ok ()) :: after →
      (∀ e ∈ after, e.remakes = false) →
      s.store = .create ((after.filterMap Entry.written?).getLast?.getD payload) ∧
      ∀ e ∈ after, e.Gives .success maxSize) ∧
    (∀ before size payload f after,
      history = before ++ .load size payload (.error (.failure f)) :: after → 0 < size →
      (∀ e ∈ after, e.remakes = false) →
      s.store = ⟨some []⟩ ∧ ∀ e ∈ after, e.Gives .missing maxLength) ∧
    ∀ a, (s.call a).1.remakes = false → (s.call a).1.written? = none →
      (s.call a).2.store = s.store := by
  intro first history s
  obtain ⟨last, hlast, hf⟩ :
      ∃ last : Contents, s.store = last.store ∧ Follows .absent history last :=
    first.run_follows rfl calls
  refine ⟨?_, ?_, ?_, ?_, ?_, ?_, ?_⟩
  · intro m r
    rcases ofRequests_cases m r with ⟨hle, c, hc, -⟩ | ⟨hlt, hc⟩
    · exact iff_of_true ⟨c, hc⟩ hle
    · exact iff_of_false (by simp [hc]) (Nat.not_le_of_lt hlt)
  · intro i
    have hp : (s.client i).payload = (first.client i).payload := first.payload_run calls i
    have hlength : (clients.get i).payload.length = (made.get i).1.payloadSize := by
      rcases ofRequests_cases (made.get i).1 (made.get i).2 with ⟨-, c, hc, hl⟩ | ⟨-, hc⟩
      · rwa [Except.ok.inj ((hmade i).symm.trans hc)]
      · cases (hmade i).symm.trans hc
    exact ⟨hp, hp ▸ hlength⟩
  · intro size payload result he
    obtain ⟨c, d, ha⟩ := hf.answers_of_mem he
    exact ha.size rfl
  · intro hr
    obtain ⟨rfl, hfails⟩ := hf.of_still (fun e d ha hr => ha.of_absent hr) hr
    exact ⟨hlast, hfails⟩
  · intro before size payload after hh hr
    rw [hh] at hf
    obtain ⟨c, d, ha, hs⟩ := hf.of_load
    cases ha
    obtain ⟨rfl, hgives⟩ := hs.of_row hr
    exact ⟨hlast, hgives⟩
  · intro before size payload f after hh hpos hr
    rw [hh] at hf
    obtain ⟨c, d, ha, hs⟩ := hf.of_load
    cases ha with
    | loadNothing => cases hpos
    | loadTooBig =>
      obtain ⟨rfl, hgives⟩ := hs.of_still (fun e d ha hr => ha.of_cleared hr) hr
      exact ⟨hlast, hgives⟩
  · intro a hr hw
    obtain ⟨d, hd, ha⟩ := Session.call_answers hlast a
    obtain rfl := ha.stays hr hw
    exact hd.trans hlast.symm

/-- Two clients, of which the first one only writes and the second one only reads. -/
def twoClients : Vector (Mix × Requests) 2 :=
  #v[(⟨0, 3⟩, ⟨0, .ofSeed 1⟩), (⟨1, 8⟩, ⟨UInt64.size, .ofSeed 2⟩)]

theorem exists_clients {n : Nat} {made : Vector (Mix × Requests) n}
    (h : ∀ i, (made.get i).1.payloadSize ≤ maxAllocation) :
    ∃ clients : Vector Client n,
      ∀ i, Client.ofRequests (made.get i).1 (made.get i).2 = .ok (clients.get i) := by
  have hall (i : Fin n) : ∃ c, Client.ofRequests (made.get i).1 (made.get i).2 = .ok c := by
    rcases ofRequests_cases (made.get i).1 (made.get i).2 with ⟨-, c, hc, -⟩ | ⟨hlt, -⟩
    · exact ⟨c, hc⟩
    · exact absurd (h i) (Nat.not_le_of_lt hlt)
  choose c hc using hall
  refine ⟨.ofFn c, fun i => ?_⟩
  show _ = Except.ok (Vector.ofFn c)[(i : Nat)]
  rw [hc, Vector.getElem_ofFn]

theorem last_write_stays_twoClients : ∃ clients : Vector Client 2,
    (∀ i, Client.ofRequests (twoClients.get i).1 (twoClients.get i).2 = .ok (clients.get i)) ∧
    let first := Session.start clients
    let own := (first.client 0).payload
    let s := (first.run [.load 8 (.ofSeed 3), .execute 0 .write, .execute 1 .read]).2
    s.store = .create own ∧ own.length = 3 := by
  have hsizes : ∀ i, (twoClients.get i).1.payloadSize ≤ maxAllocation := by decide
  obtain ⟨clients, hmade⟩ := exists_clients hsizes
  refine ⟨clients, hmade, ?_⟩
  intro first own s
  obtain ⟨-, hown, -, -, hrow, -⟩ := last_write_stays twoClients clients hmade
    [.load 8 (.ofSeed 3), .execute 0 .write, .execute 1 .read]
  have hlength : own.length = 3 := (congrArg List.length (hown 0).1).symm.trans (hown 0).2
  have hfits : Store.excess? own.length = none := by
    rw [hlength]
    decide
  have hwrite (payload : List UInt8) :
      (first.client 0).execute .write (.create payload) = (.ok .success, .create own) := by
    rw [Client.execute, write_create, hfits]
  have hload := first.call_load_eq_ok (.ofSeed 3) (show 0 < 8 by decide) (by decide)
  have hstore := hrow [] 8 ((drawBytes 8).value (.ofSeed 3))
    [.request .write own (.ok .success),
      .request .read (first.client 1).payload (.ok .success)]
  refine ⟨(hstore ?_ ?_).1, hlength⟩
  · show (first.run _).1 = _
    unfold Session.run
    rw [hload]
    simp only [Session.run, Session.call, Session.client_withStore, hwrite]
    rfl
  · simp [Entry.remakes]

/-- A load of too many bytes drops the row that an earlier load has made, and a read misses it. -/
theorem no_row_after_too_long_load :
    let loaded := Store.bare.loadDrawn 8 (.ofSeed 0)
    let reloaded := loaded.2.2.loadDrawn (maxLength + 1) (.ofSeed 0)
    loaded.1 = .ok () ∧ reloaded.2.2.cells = some [] ∧
      (∃ f, reloaded.1 = .error (.failure f)) ∧ reloaded.2.2.read = .ok .missing := by
  intro loaded reloaded
  have hloaded : loaded = _ := loadDrawn_eq_ok _ _ (by decide) (by decide)
  obtain ⟨e, hreloaded⟩ : ∃ e, reloaded = _ := loadDrawn_eq_error _ _ (by decide) (by decide)
  rw [hloaded, hreloaded]
  exact ⟨rfl, rfl, ⟨_, rfl⟩, rfl⟩

end StoreBench.Blob
