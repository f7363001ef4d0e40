import StoreBench.Proofs.Telecom.Invariance
import StoreBench.Proofs.Telecom.Loading

/-! Clients on a database that has been loaded: none of their steps fails, whatever their order. -/
namespace StoreBench.Telecom

/-- A forwarding that the procedure adds is not too long. -/
def Procedure.Brief : Procedure → Prop
  | insertCallForwarding _ kind start stop target =>
    ∀ id, (Record.forwarding ⟨id, kind, start, stop, target⟩).length ≤ maxLength
  | _ => True

theorem Procedure.InSpace.brief {n : UInt64} {p : Procedure} (h : p.InSpace n) : p.Brief := by
  cases p with
  | insertCallForwarding number kind start stop target =>
    intro id
    have htarget := h.2.2.2.2.utf8ByteSize_le
    have hlength := (Record.forwarding ⟨id, kind, start, stop, target⟩).length_le
    rw [Record.textBytes] at hlength
    dsimp only at hlength
    unfold maxLength
    omega
  | _ => trivial

/-- The texts that updates write again are short. -/
structure Tables.Short (t : Tables) : Prop where
  subscribers : ∀ r ∈ t.subscribers, (Record.subscriber r).textBytes ≤ 80
  facilities : ∀ r ∈ t.facilities, (Record.facility r).textBytes ≤ 80

namespace Tables

theorem rowExcess?_eq_none_iff {rows : List Record} :
    rowExcess? rows = none ↔ ∀ r ∈ rows, r.length ≤ maxLength := by
  simp [rowExcess?]

theorem rowExcess?_of_textBytes {rows : List Record} (h : ∀ r ∈ rows, r.textBytes ≤ 80) :
    rowExcess? rows = none := by
  rw [rowExcess?_eq_none_iff]
  intro r hr
  have hlength := r.length_le
  have hbytes := h r hr
  unfold maxLength
  omega

variable {t : Tables}

theorem Short.withId (h : t.Short) (id : UInt64) : ∀ r ∈ t.withId id, r.textBytes ≤ 80 := by
  intro r hr
  obtain ⟨q, hq, rfl⟩ := List.mem_map.mp hr
  exact h.subscribers q (List.mem_of_mem_filter hq)

theorem Short.withNumber (h : t.Short) (number : String) :
    ∀ r ∈ t.withNumber number, r.textBytes ≤ 80 := by
  intro r hr
  obtain ⟨q, hq, rfl⟩ := List.mem_map.mp hr
  exact h.subscribers q (List.mem_of_mem_filter hq)

theorem Short.withKind (h : t.Short) (owner : UInt64) (kind : UInt8) :
    ∀ r ∈ t.withKind owner kind, r.textBytes ≤ 80 := by
  intro r hr
  obtain ⟨q, hq, rfl⟩ := List.mem_map.mp hr
  exact h.facilities q (List.mem_of_mem_filter hq)

theorem Short.of_perm {n : UInt64} (h : t.records.Perm (population n)) : t.Short := by
  have hbytes (r : Record) (hr : r ∈ t.records) : r.textBytes ≤ 80 :=
    textBytes_le_of_mem_population (h.mem_iff.mp hr)
  exact ⟨fun r hr => hbytes (.subscriber r) (by simp [records, hr]),
    fun r hr => hbytes (.facility r) (by simp [records, hr])⟩

theorem Short.setBit (h : t.Short) (id : UInt64) (bit : Bool) : (t.setBit id bit).Short := by
  refine ⟨?_, h.facilities⟩
  intro r hr
  obtain ⟨q, hq, rfl⟩ := List.mem_map.mp hr
  have hbytes := h.subscribers q hq
  split <;> exact hbytes

theorem Short.setDataA (h : t.Short) (id : UInt64) (kind dataA : UInt8) :
    (t.setDataA id kind dataA).Short := by
  refine ⟨h.subscribers, ?_⟩
  intro r hr
  obtain ⟨q, hq, rfl⟩ := List.mem_map.mp hr
  have hbytes := h.facilities q hq
  split <;> exact hbytes

theorem Short.setLocation (h : t.Short) (number : String) (vlr : UInt32) :
    (t.setLocation number vlr).Short := by
  refine ⟨?_, h.facilities⟩
  intro r hr
  obtain ⟨q, hq, rfl⟩ := List.mem_map.mp hr
  have hbytes := h.subscribers q hq
  split <;> exact hbytes

theorem Short.run (h : t.Short) (foreignKeys : Bool) (p : Procedure) :
    (t.run foreignKeys p).2.Short := by
  cases p with
  | updateSubscriberData id kind bit dataA => exact (h.setBit id bit).setDataA id kind dataA
  | updateLocation number vlr => exact h.setLocation number vlr
  | insertCallForwarding number kind start stop target =>
    rcases t.run_insert foreignKeys number kind start stop target with
      ⟨-, hrun⟩ | ⟨id, -, ⟨-, hrun⟩ | ⟨-, hrun⟩⟩
    · rwa [hrun]
    · rwa [hrun]
    · rw [hrun]
      exact ⟨h.subscribers, h.facilities⟩
  | deleteCallForwarding number kind start =>
    rcases t.run_delete foreignKeys number kind start with ⟨-, hrun⟩ | ⟨id, -, hrun⟩
    · rwa [hrun]
    · rw [hrun]
      exact ⟨h.subscribers, h.facilities⟩
  | getSubscriberData | getNewDestination | getAccessData => exact h

theorem Short.execute (h : t.Short) (foreignKeys : Bool) (p : Procedure) :
    (t.execute foreignKeys p).2.Short := by
  rw [execute_eq]
  cases p.stop? t with
  | some f => exact h
  | none => exact h.run foreignKeys p

/-- With short texts in the tables, a brief procedure about a number of the population writes
nothing that is too long. -/
theorem Short.excess?_eq_none (h : t.Short) {n : UInt64} {p : Procedure} (hp : p.About n)
    (hb : p.Brief) : p.excess? t = none := by
  have hnumber (id : UInt64) : overlong? (SubscriberNumber.ofId id).utf8ByteSize = none := by
    have hlength := SubscriberNumber.length_ofId_le id
    have hbytes := utf8ByteSize_le (SubscriberNumber.ofId id)
    rw [overlong?_eq_none_iff]
    unfold maxLength
    omega
  cases p with
  | getSubscriberData | getNewDestination | getAccessData => rfl
  | updateSubscriberData id kind bit dataA =>
    have hbit : rowExcess? ((t.setBit id bit).withId id) = none :=
      rowExcess?_of_textBytes ((h.setBit id bit).withId id)
    have hdata : rowExcess? ((t.setDataA id kind dataA).withKind id kind) = none :=
      rowExcess?_of_textBytes ((h.setDataA id kind dataA).withKind id kind)
    simp [Procedure.excess?, hbit, hdata]
  | updateLocation number vlr =>
    obtain ⟨id, -, -, rfl⟩ := hp
    have hrows := rowExcess?_of_textBytes
      ((h.setLocation (SubscriberNumber.ofId id) vlr).withNumber (SubscriberNumber.ofId id))
    simp [Procedure.excess?, hnumber, hrows]
  | insertCallForwarding number kind start stop target =>
    obtain ⟨id, -, -, rfl⟩ := hp
    have htarget : overlong? target.utf8ByteSize = none := by
      rw [← fault?_forwarding ⟨0, kind, start, stop, target⟩]
      exact Record.fault?_insert (hb 0)
    have hrow (owner : UInt64) :
        rowExcess? [.forwarding ⟨owner, kind, start, stop, target⟩] = none := by
      simpa [rowExcess?] using hb owner
    cases hid : t.idOf? (SubscriberNumber.ofId id) <;>
      simp [Procedure.excess?, hnumber, hid, htarget, hrow]
  | deleteCallForwarding number kind start =>
    obtain ⟨id, -, -, rfl⟩ := hp
    exact hnumber id

end Tables

namespace Session

/-- Steps of clients and transactions on their connections, in any order. -/
inductive Reaches (s : Session) : Session → Prop where
  | refl : Reaches s s
  | step {t u : Session} {i : Nat} {result : Except Failure Outcome} (h : Reaches s t)
      (hu : t.step i = some (result, u)) : Reaches s u
  | execute {t u : Session} {i : Nat} {p : Procedure} {result : Except Failure Outcome}
      (h : Reaches s t) (hu : t.execute i p = some (result, u)) : Reaches s u

/-- The clients are about some of `n` subscribers, with which the tables agree. -/
structure Serves (s : Session) (n : UInt64) (t : Tables) : Prop where
  ready : s.Ready t
  agree : t.Agree n
  short : t.Short
  about : ∀ (i : Nat) (seat : Seat), s.seats[i]? = some seat →
    1 ≤ seat.traffic.subscribers ∧ seat.traffic.subscribers ≤ n

theorem fits_of_about {n : UInt64} (hn : n.toNat ≤ Nat.pow 2 59) {p : Procedure}
    (hp : p.About n) : p.Fits := by
  cases p with
  | updateLocation | insertCallForwarding | deleteCallForwarding => trivial
  | _ => exact fits_of_le hn hp.2

/-- Whatever a transaction is about, it leaves the skeleton of the tables as it is, and their texts
short. -/
theorem executeAt_skeleton {s : Session} {t : Tables} (h : s.Ready t) (hshort : t.Short)
    (seat : Seat) (p : Procedure) : ∃ result handle u, s.executeAt seat p =
      (result, { seat with handle }, { s with store := .ofTables u }) ∧
      u.skeleton = t.skeleton ∧ u.Short := by
  obtain ⟨handle, he⟩ := h.executeAt seat p
  exact ⟨_, handle, _, he, t.skeleton_execute s.options.foreignKeys p, hshort.execute _ p⟩

namespace Serves

variable {n : UInt64} {s : Session} {t : Tables}

theorem update (h : s.Serves n t) {u : Tables} (hu : u.skeleton = t.skeleton ∧ u.Short) {i : Nat}
    {seat : Seat} (hs : s.seats[i]? = some seat) (handle : Handle) {traffic : Traffic}
    (ht : traffic.subscribers = seat.traffic.subscribers) :
    Serves { s with store := .ofTables u, seats := s.seats.set i ⟨traffic, handle⟩ } n u := by
  refine ⟨⟨rfl, h.ready.lock⟩, h.agree.of_skeleton hu.1, hu.2, ?_⟩
  intro j other hj
  by_cases hij : j = i
  · subst hij
    have hlt : j < s.seats.length := (List.getElem?_eq_some_iff.mp hs).1
    have : ⟨traffic, handle⟩ = other := by simpa [List.getElem?_set_self hlt] using hj
    rw [← this, ht]
    exact h.about j seat hs
  · rw [List.getElem?_set_ne (Ne.symm hij)] at hj
    exact h.about j other hj

theorem stop?_eq_none (h : s.Serves n t) (hn : n.toNat ≤ Nat.pow 2 59) {p : Procedure}
    (hp : p.About n) (hb : p.Brief) : p.stop? t = none :=
  Procedure.stop?_eq_none_iff.mpr ⟨fits_of_about hn hp, h.short.excess?_eq_none hp hb⟩

theorem execute_ok (h : s.Serves n t) (hn : n.toNat ≤ Nat.pow 2 59) {i : Nat} {seat : Seat}
    (hs : s.seats[i]? = some seat) {p : Procedure} (hp : p.About n) (hb : p.Brief) :
    ∃ outcome u, s.execute i p = some (.ok outcome, u) ∧ p.Expects outcome := by
  obtain ⟨handle, he⟩ := h.ready.executeAt seat p
  rw [Tables.execute_of_stop?_eq_none _ (h.stop?_eq_none hn hp hb)] at he
  have hx := h.agree.expects hp s.options.foreignKeys
  exact ⟨_, _, by rw [execute, atSeat, hs, Option.map_some, he], hx⟩

theorem step_ok (h : s.Serves n t) (hn : n.toNat ≤ Nat.pow 2 59) {i : Nat} {seat : Seat}
    (hs : s.seats[i]? = some seat) : ∃ outcome u, s.step i = some (.ok outcome, u) ∧
      seat.traffic.next.1.Expects outcome := by
  obtain ⟨h1, hle⟩ := h.about i seat hs
  have hnext := Traffic.next_inSpace h1
  have hp := hnext.about.mono hle
  obtain ⟨handle, he⟩ :=
    h.ready.executeAt { seat with traffic := seat.traffic.next.2 } seat.traffic.next.1
  rw [Tables.execute_of_stop?_eq_none _ (h.stop?_eq_none hn hp hnext.brief)] at he
  have hx := h.agree.expects hp s.options.foreignKeys
  exact ⟨_, _, by rw [step, atSeat, hs, Option.map_some]; dsimp only; rw [he]; rfl, hx⟩

theorem execute (h : s.Serves n t) {i : Nat} {p : Procedure} {result : Except Failure Outcome}
    {u : Session} (hu : s.execute i p = some (result, u)) :
    (∃ t, u.Serves n t) ∧ u.seats.length = s.seats.length := by
  obtain ⟨seat, hs, he⟩ := Option.map_eq_some_iff.mp hu
  obtain ⟨r, handle, v, hv, hk⟩ := executeAt_skeleton h.ready h.short seat p
  simp only [hv] at he
  obtain ⟨-, rfl⟩ := Prod.mk.inj he
  exact ⟨⟨v, h.update hk hs handle rfl⟩, by simp⟩

theorem step (h : s.Serves n t) {i : Nat} {result : Except Failure Outcome} {u : Session}
    (hu : s.step i = some (result, u)) :
    (∃ t, u.Serves n t) ∧ u.seats.length = s.seats.length := by
  obtain ⟨seat, hs, he⟩ := Option.map_eq_some_iff.mp hu
  obtain ⟨r, handle, v, hv, hk⟩ := executeAt_skeleton h.ready h.short
    { seat with traffic := seat.traffic.next.2 } seat.traffic.next.1
  simp only [hv] at he
  obtain ⟨-, rfl⟩ := Prod.mk.inj he
  exact ⟨⟨v, h.update hk hs handle seat.traffic.subscribers_next⟩, by simp⟩

theorem reaches (h : s.Serves n t) {u : Session} (hu : s.Reaches u) :
    (∃ t, u.Serves n t) ∧ u.seats.length = s.seats.length := by
  induction hu with
  | refl => exact ⟨⟨t, h⟩, rfl⟩
  | step _ hu ih =>
    obtain ⟨⟨t, ht⟩, hl⟩ := ih
    obtain ⟨hserves, hlen⟩ := ht.step hu
    exact ⟨hserves, hlen.trans hl⟩
  | execute _ hu ih =>
    obtain ⟨⟨t, ht⟩, hl⟩ := ih
    obtain ⟨hserves, hlen⟩ := ht.execute hu
    exact ⟨hserves, hlen.trans hl⟩

end Serves

/-- A load that nobody keeps from writing succeeds, if there are batches and a buffer can be made
for them. -/
theorem load_ok {n : UInt64} {size : Nat} (hn : n.toNat ≤ Nat.pow 2 59) (hs : 0 < size)
    (hm : size ≤ Load.maxBatch) {s : Session} (hlock : s.lock = none) :
    ∃ stats log loaded, s.load n size = (.ok stats, log, loaded) := by
  obtain ⟨stats, log, t, hload, -⟩ := Store.load_ok hn hs hm s.options.foreignKeys s.store
  have hnone : s.lock.isSome = false := by simp [hlock]
  rw [load, hnone]
  simp [hload]

theorem eq_of_load {s u : Session} {n : UInt64} {size : Nat} {stats : Load.Stats} {log : List Event}
    (h : s.load n size = (.ok stats, log, u)) : s.lock = none ∧
      u = { s with
        store := .ofTables (.loaded n)
        admin := s.admin.afterLoad (runBy stats) } := by
  unfold load at h
  split at h
  · cases congrArg Prod.fst h
  · next hlock =>
    cases hl : s.store.load s.options.foreignKeys n size with
    | mk result rest =>
      obtain ⟨log, store⟩ := rest
      rw [hl] at h
      obtain rfl : result = .ok stats := congrArg Prod.fst h
      obtain rfl := Store.eq_loaded_of_load hl
      exact ⟨by simpa using hlock, (congrArg (·.2.2) h).symm⟩

/-- After a load, clients about some of the loaded subscribers are served. -/
theorem serves_load {n : UInt64} {size : Nat} {s u : Session} {stats : Load.Stats}
    {log : List Event}
    (h : s.load n size = (.ok stats, log, u))
    (hseats : ∀ seat ∈ s.seats, 1 ≤ seat.traffic.subscribers ∧ seat.traffic.subscribers ≤ n) :
    u.Serves n (.loaded n) := by
  obtain ⟨hlock, rfl⟩ := eq_of_load h
  have hperm := Tables.records_loaded n
  exact ⟨⟨rfl, hlock⟩, .of_perm hperm, .of_perm hperm,
    fun i seat hi => hseats seat (List.mem_of_getElem? hi)⟩

end Session

/-- After a load of `n` subscribers, no step of a client fails that is about some of them, whatever
has been done before. Its outcome is one to be expected, and so is that of any transaction about
one of the `n` subscribers, unless it adds a forwarding that is too long: the population alone says
whether access data and facilities are found. -/
theorem steps_succeed_after_load {n : UInt64} {size : Nat} (hn : n.toNat ≤ Nat.pow 2 59)
    (hs : 0 < size) {s : Session} (hlock : s.lock = none)
    (hseats : ∀ seat ∈ s.seats, 1 ≤ seat.traffic.subscribers ∧ seat.traffic.subscribers ≤ n) :
    (size ≤ Load.maxBatch → ∃ stats log loaded, s.load n size = (.ok stats, log, loaded)) ∧
    ∀ stats log loaded, s.load n size = (.ok stats, log, loaded) →
      ∀ t, loaded.Reaches t → t.seats.length = s.seats.length ∧
        ∀ (i : Nat) (seat : Seat), t.seats[i]? = some seat →
          (∃ outcome u, t.step i = some (.ok outcome, u) ∧
            seat.traffic.next.1.Expects outcome) ∧
          ∀ p : Procedure, p.About n → p.Brief →
            ∃ outcome u, t.execute i p = some (.ok outcome, u) ∧ p.Expects outcome := by
  refine ⟨fun hm => Session.load_ok hn hs hm hlock, ?_⟩
  intro stats log loaded hload u hu
  have hserves := Session.serves_load hload hseats
  obtain ⟨⟨v, hv⟩, hlen⟩ := hserves.reaches hu
  obtain ⟨-, rfl⟩ := Session.eq_of_load hload
  refine ⟨hlen, ?_⟩
  intro i seat hi
  exact ⟨hv.step_ok hn hi, fun p hp hb => hv.execute_ok hn hi hp hb⟩

def twoClients : Session :=
  .start .standard [⟨2, Random.Stream.ofSeed 7⟩, ⟨3, Random.Stream.ofSeed 8⟩]

theorem steps_succeed_after_load_twoClients :
    ∃ stats log loaded, twoClients.load 3 2 = (.ok stats, log, loaded) ∧
      ∃ first t, loaded.step 1 = some (.ok first, t) ∧
        ∃ second u, t.step 0 = some (.ok second, u) ∧
          ∃ v, u.execute 1 (.getSubscriberData 3) = some (.ok .success, v) := by
  have hseats : ∀ seat ∈ twoClients.seats,
      1 ≤ seat.traffic.subscribers ∧ seat.traffic.subscribers ≤ 3 := by
    simp [twoClients, Session.start]
  obtain ⟨hok, hall⟩ :=
    @steps_succeed_after_load 3 2 (by decide) (by decide) twoClients rfl hseats
  obtain ⟨stats, log, loaded, hload⟩ := hok (by decide)
  have served (t : Session) (ht : loaded.Reaches t) (i : Nat) (hi : i < 2) :=
    (hall stats log loaded hload t ht).2 i _
      (List.getElem?_eq_getElem (Nat.lt_of_lt_of_eq hi (hall stats log loaded hload t ht).1.symm))
  obtain ⟨⟨first, t, hfirst, -⟩, -⟩ := served loaded .refl 1 (by decide)
  have ht : loaded.Reaches t := .step .refl hfirst
  obtain ⟨⟨second, u, hsecond, -⟩, -⟩ := served t ht 0 (by decide)
  obtain ⟨-, hexecute⟩ := served u (.step ht hsecond) 1 (by decide)
  obtain ⟨outcome, v, hv, rfl⟩ := hexecute (.getSubscriberData 3) ⟨by decide, by decide⟩ trivial
  exact ⟨stats, log, loaded, hload, first, t, hfirst, second, u, hsecond, v, hv⟩

end StoreBench.Telecom
