import StoreBench.Proofs.Telecom.Integrity
import StoreBench.Proofs.Telecom.Slices

/-!
Clients whose transactions are never about the same subscriber. However their calls are interleaved,
each of them sees what it would see alone.
-/
namespace StoreBench.Telecom

def ownCalls (i : Nat) (calls : List Call) : List Procedure :=
  (calls.filter (·.1 == i)).map (·.2)

def ownResults (i : Nat) (calls : List Call) (results : List (Except Failure Outcome)) :
    List (Except Failure Outcome) :=
  ((calls.zip results).filter (·.1.1 == i)).map (·.2)

/-- The calls are those of the clients' lists, each list in its own order. -/
def Interleaves (lists : Nat → List Procedure) (calls : List Call) : Prop :=
  ∀ i, ownCalls i calls = lists i

section Own

variable {i : Nat} {c : Call} {calls : List Call}

theorem ownCalls_cons_self (h : c.1 = i) : ownCalls i (c :: calls) = c.2 :: ownCalls i calls := by
  simp [ownCalls, h]

theorem ownCalls_cons_ne (h : c.1 ≠ i) : ownCalls i (c :: calls) = ownCalls i calls := by
  simp [ownCalls, h]

theorem mem_ownCalls {p : Procedure} : p ∈ ownCalls i calls ↔ (i, p) ∈ calls := by
  simp [ownCalls]

variable {result : Except Failure Outcome} {results : List (Except Failure Outcome)}

theorem ownResults_cons_self (h : c.1 = i) :
    ownResults i (c :: calls) (result :: results) = result :: ownResults i calls results := by
  simp [ownResults, h]

theorem ownResults_cons_ne (h : c.1 ≠ i) :
    ownResults i (c :: calls) (result :: results) = ownResults i calls results := by
  simp [ownResults, h]

end Own

namespace Tables

/-- Two tables with the same subscribers and facilities that agree on the rows about some
subscribers. -/
structure AgreeOn (mine : UInt64 → Prop) (t u : Tables) : Prop where
  keyed : t.Keyed
  otherKeyed : u.Keyed
  skeleton : u.skeleton = t.skeleton
  slices : ∀ id, mine id → u.slice id = t.slice id

namespace AgreeOn

variable {mine : UInt64 → Prop} {t u : Tables}

/-- A transaction about one of these subscribers, or none, comes out the same on both. -/
theorem execute (h : AgreeOn mine t u) (foreignKeys : Bool) {p : Procedure}
    (hp : ∀ id, p.addressee? t = some id → mine id) :
    (u.execute foreignKeys p).1 = (t.execute foreignKeys p).1 ∧
      AgreeOn mine (t.execute foreignKeys p).2 (u.execute foreignKeys p).2 := by
  have haddressee := p.addressee?_of_skeleton h.skeleton
  cases ha : p.addressee? t with
  | none =>
    rw [execute_of_addressee?_eq_none ha, execute_of_addressee?_eq_none (haddressee.trans ha),
      stop?_of_addressee?_eq_none ha (haddressee.trans ha)]
    exact ⟨rfl, h⟩
  | some id =>
    -- Both come out as on the rows about the addressee, which are the same.
    have hx := execute_slice h.keyed.numbers ha foreignKeys
    have hy := execute_slice h.otherKeyed.numbers (haddressee.trans ha) foreignKeys
    rw [h.slices id (hp id ha), hx] at hy
    obtain ⟨hresult, hslice⟩ := Prod.mk.inj hy
    refine ⟨hresult.symm, h.keyed.execute foreignKeys p, h.otherKeyed.execute foreignKeys p, ?_, ?_⟩
    · rw [skeleton_execute, skeleton_execute, h.skeleton]
    · intro other hother
      by_cases hne : other = id
      · rw [hne, hslice]
      · rw [slice_execute h.keyed.numbers ha foreignKeys hne,
          slice_execute h.otherKeyed.numbers (haddressee.trans ha) foreignKeys hne,
          h.slices other hother]

theorem executeLeft (h : AgreeOn mine t u) (foreignKeys : Bool) {p : Procedure}
    (hp : ∀ id, p.addressee? t = some id → ¬mine id) :
    AgreeOn mine (t.execute foreignKeys p).2 u := by
  refine ⟨h.keyed.execute foreignKeys p, h.otherKeyed, ?_, ?_⟩
  · rw [skeleton_execute, h.skeleton]
  · intro other hother
    rw [h.slices other hother]
    cases ha : p.addressee? t with
    | none => rw [execute_of_addressee?_eq_none ha]
    | some id =>
      have hne : other ≠ id := fun he => hp id ha (he ▸ hother)
      exact (slice_execute h.keyed.numbers ha foreignKeys hne).symm

/-- In a run of calls, a client that has some subscribers to itself gets the results that it gets
alone, and leaves the rows about them as it does alone. -/
theorem executeAll {i : Nat} {calls : List Call} (h : AgreeOn mine t u) (foreignKeys : Bool)
    (hmine : ∀ c ∈ calls, c.1 = i → ∀ id, c.2.addressee? t = some id → mine id)
    (hothers : ∀ c ∈ calls, c.1 ≠ i → ∀ id, c.2.addressee? t = some id → ¬mine id) :
    ownResults i calls (t.executeAll foreignKeys (calls.map (·.2))).1 =
        (u.executeAll foreignKeys (ownCalls i calls)).1 ∧
      AgreeOn mine (t.executeAll foreignKeys (calls.map (·.2))).2
        (u.executeAll foreignKeys (ownCalls i calls)).2 := by
  -- Calls of the client are made on both, those of others on `t` only.
  induction calls generalizing t u with
  | nil => exact ⟨rfl, h⟩
  | cons c calls ih =>
    have haddressee (q : Procedure) :
        q.addressee? (t.execute foreignKeys c.2).2 = q.addressee? t :=
      q.addressee?_of_skeleton (t.skeleton_execute foreignKeys c.2)
    obtain ⟨hc, hcalls⟩ := List.forall_mem_cons.mp hmine
    obtain ⟨hd, hrest⟩ := List.forall_mem_cons.mp hothers
    simp only [← haddressee] at hcalls hrest
    rw [List.map_cons, executeAll_cons]
    by_cases hi : c.1 = i
    · obtain ⟨hresult, hagree⟩ := h.execute foreignKeys (hc hi)
      obtain ⟨hresults, hafter⟩ := ih hagree hcalls hrest
      rw [ownCalls_cons_self hi, ownResults_cons_self hi, executeAll_cons, hresult, hresults]
      exact ⟨rfl, hafter⟩
    · rw [ownCalls_cons_ne hi, ownResults_cons_ne hi]
      exact ih (h.executeLeft foreignKeys (hd hi)) hcalls hrest

end AgreeOn

theorem perm_of_slices {t u : Tables} (h : ∀ id, t.slice id = u.slice id) (table : Table) :
    (t.recordsOf table).Perm (u.recordsOf table) := by
  rw [List.perm_iff_count]
  intro r
  have hcount := congrArg (fun v : Tables => (v.recordsOf table).count r) (h r.owner)
  simp only [recordsOf_slice] at hcount
  rwa [List.count_filter (by simp), List.count_filter (by simp)] at hcount

end Tables

/-- Nobody but client `i` addresses a subscriber. -/
def Reserved (t : Tables) (lists : Nat → List Procedure) (i : Nat) (id : UInt64) : Prop :=
  ∀ j, j ≠ i → ∀ p ∈ lists j, p.addressee? t ≠ some id

/-- Lists are apart if no procedures of two of them address the same subscriber. -/
def Apart (t : Tables) (lists : Nat → List Procedure) : Prop :=
  ∀ i, ∀ p ∈ lists i, ∀ id, p.addressee? t = some id → Reserved t lists i id

section Interleaving

variable {t : Tables} {lists : Nat → List Procedure} {calls : List Call}

theorem Apart.exists_reserved (h : Apart t lists) (id : UInt64) : ∃ i, Reserved t lists i id := by
  by_cases ha : ∃ i, ∃ p ∈ lists i, p.addressee? t = some id
  · obtain ⟨i, p, hp, hid⟩ := ha
    exact ⟨i, h i p hp id hid⟩
  · exact ⟨0, fun j _ p hp hid => ha ⟨j, p, hp, hid⟩⟩

theorem Interleaves.mem (h : Interleaves lists calls) {c : Call} (hc : c ∈ calls) :
    c.2 ∈ lists c.1 := h c.1 ▸ mem_ownCalls.mpr hc

theorem Interleaves.agree (h : Interleaves lists calls) (ht : t.Keyed) (ha : Apart t lists)
    (foreignKeys : Bool) (i : Nat) :
    ownResults i calls (t.executeAll foreignKeys (calls.map (·.2))).1 =
        (t.executeAll foreignKeys (lists i)).1 ∧
      Tables.AgreeOn (Reserved t lists i) (t.executeAll foreignKeys (calls.map (·.2))).2
        (t.executeAll foreignKeys (lists i)).2 := by
  have hself : Tables.AgreeOn (Reserved t lists i) t t := ⟨ht, ht, rfl, fun _ _ => rfl⟩
  rw [← h i]
  refine hself.executeAll foreignKeys ?_ ?_
  · rintro c hc rfl id hid
    exact ha c.1 c.2 (h.mem hc) id hid
  · intro c hc hne id hid hmine
    exact hmine c.1 hne c.2 (h.mem hc) hid

end Interleaving

/-- The lists of some clients address different subscribers. However they are interleaved, every
client gets the same results, and the tables end with the same rows. -/
theorem interleavings_agree {s : Session} {t : Tables} (h : s.Ready t) (ht : t.Keyed)
    {lists : Nat → List Procedure} (hclients : ∀ i, s.seats.length ≤ i → lists i = [])
    (ha : Apart t lists) {calls otherCalls : List Call} (hc : Interleaves lists calls)
    (ho : Interleaves lists otherCalls) :
    ∃ results u x otherResults v y, s.executeAll calls = some (results, u) ∧
      s.executeAll otherCalls = some (otherResults, v) ∧
      u.store = .ofTables x ∧ v.store = .ofTables y ∧
      (∀ i, ownResults i calls results = ownResults i otherCalls otherResults) ∧
      ∀ table, (x.recordsOf table).Perm (y.recordsOf table) := by
  have seated {calls : List Call} (hc : Interleaves lists calls) :
      ∀ c ∈ calls, c.1 < s.seats.length := by
    intro c hcall
    by_contra hlt
    have hmem := hc.mem hcall
    rw [hclients c.1 (by omega)] at hmem
    cases hmem
  obtain ⟨u, hu, hready, -⟩ := h.executeAll (seated hc)
  obtain ⟨v, hv, hotherReady, -⟩ := h.executeAll (seated ho)
  have agree (i : Nat) := hc.agree ht ha s.options.foreignKeys i
  have agreeOther (i : Nat) := ho.agree ht ha s.options.foreignKeys i
  refine ⟨_, u, _, _, v, _, hu, hv, hready.store, hotherReady.store, ?_, ?_⟩
  · intro i
    rw [(agree i).1, (agreeOther i).1]
  · -- The rows about a subscriber are left as its client leaves them alone, in either order.
    refine Tables.perm_of_slices fun id => ?_
    obtain ⟨i, hi⟩ := ha.exists_reserved id
    exact ((agree i).2.slices id hi).symm.trans ((agreeOther i).2.slices id hi)

/-- Client `i` addresses subscriber `i + 1`, by id or by number. -/
def twoLists : Nat → List Procedure
  | 0 => [.insertCallForwarding "1" 1 0 8 "5", .getNewDestination 1 1 0 0]
  | 1 => [.updateLocation "2" 7]
  | _ => []

theorem interleavings_agree_twoLists :
    let s := Session.on 2 true (.ofTables twoSubscribers)
    let calls := [(0, .insertCallForwarding "1" 1 0 8 "5"), (1, .updateLocation "2" 7),
      (0, .getNewDestination 1 1 0 0)]
    let otherCalls := [(1, .updateLocation "2" 7), (0, .insertCallForwarding "1" 1 0 8 "5"),
      (0, .getNewDestination 1 1 0 0)]
    ∃ results u x otherResults v y, s.executeAll calls = some (results, u) ∧
      s.executeAll otherCalls = some (otherResults, v) ∧
      u.store = .ofTables x ∧ v.store = .ofTables y ∧
      ownResults 0 calls results = ownResults 0 otherCalls otherResults ∧
      (x.recordsOf .subscriber).Perm (y.recordsOf .subscriber) := by
  intro s calls otherCalls
  have haddressee (i : Nat) (p : Procedure) (hp : p ∈ twoLists i) (id : UInt64)
      (hid : p.addressee? twoSubscribers = some id) : id.toNat = i + 1 := by
    rcases i with _ | _ | i
    · obtain rfl | rfl : p = _ ∨ p = _ := by simpa [twoLists] using hp
      all_goals
        obtain rfl := Option.some.inj (hid : some 1 = some id)
        rfl
    · obtain rfl : p = _ := by simpa [twoLists] using hp
      obtain rfl := Option.some.inj (hid : some 2 = some id)
      rfl
    · cases hp
  have hapart : Apart twoSubscribers twoLists := by
    intro i p hp id hid j hne q hq hother
    have hi := haddressee i p hp id hid
    have hj := haddressee j q hq id hother
    omega
  have hclients (i : Nat) (hi : s.seats.length ≤ i) : twoLists i = [] := by
    rcases i with _ | _ | i
    · simp [s] at hi
    · simp [s] at hi
    · rfl
  have hcalls : Interleaves twoLists calls := by
    rintro (_ | _ | i) <;> rfl
  have hother : Interleaves twoLists otherCalls := by
    rintro (_ | _ | i) <;> rfl
  obtain ⟨results, u, x, otherResults, v, y, hu, hv, hx, hy, hresults, hperm⟩ :=
    interleavings_agree (Session.ready_on 2 true twoSubscribers) keyed_twoSubscribers hclients
      hapart
      hcalls hother
  exact ⟨results, u, x, otherResults, v, y, hu, hv, hx, hy, hresults 0, hperm .subscriber⟩

end StoreBench.Telecom
