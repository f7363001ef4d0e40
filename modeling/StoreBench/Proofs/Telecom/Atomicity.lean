import StoreBench.Proofs.Telecom.Calls
import StoreBench.Proofs.Telecom.Loading

/-!
Loads are all or nothing: they end with the whole population or with empty tables, whatever the
batches and whatever was in the database.
-/
namespace StoreBench.Telecom

open StoreBench.Load

/-- How a load of `n` subscribers ends. There are two reasons why it can fail and one why it can
panic, and then nothing is left of it, nor of any load before. -/
inductive LoadEnd (n : UInt64) (size : Nat) : Except Abort Stats → Store → Prop where
  | whole {stats : Stats} {t : Tables} (hs : 0 < size) (hm : size ≤ maxBatch)
      (hn : n.toNat ≤ maxInteger) (ht : t.records.Perm (population n)) :
      LoadEnd n size (.ok stats) (.ofTables t)
  | zeroBatches (hs : size = 0) :
      LoadEnd n size (.error (.failure (.ofCause .zeroBatchSize))) (.ofTables .empty)
  | unfit {r : Record} {number : UInt64} {rows : Nat} (hs : 0 < size) (hm : size ≤ maxBatch)
      (hr : r ∈ population n) (ho : maxInteger < r.owner.toNat) :
      LoadEnd n size
        (.error (.failure ((((Failure.ofCause .tooLarge).during (.convertingKey r.owner)).during
          (.inserting r.table r.owner)).during (.loadingBatch number rows))))
        (.ofTables .empty)
  | tooLarge (hm : maxBatch < size) :
      LoadEnd n size (.error (.panic "capacity overflow")) (.ofTables .empty)

/-- All ids fit if and only if that of the last subscriber does. -/
theorem fits_population_iff {n : UInt64} :
    (∀ r ∈ population n, fits r.owner = true) ↔ n.toNat ≤ maxInteger := by
  constructor
  · intro h
    by_cases h1 : 1 ≤ n
    · obtain ⟨s, hs, rfl, -⟩ := exists_subscriber h1 (UInt64.le_refl n)
      exact fits_iff.mp (h _ hs)
    · rw [UInt64.le_iff_toNat_le] at h1
      have : (1 : UInt64).toNat = 1 := rfl
      omega
  · intro hn r hr
    have hle := (mem_population.mp hr).2.1
    rw [UInt64.le_iff_toNat_le] at hle
    exact fits_iff.mpr (by omega)

namespace Store

variable (foreignKeys : Bool) (n : UInt64) (s : Store)

theorem load_end (size : Nat) :
    LoadEnd n size (s.load foreignKeys n size).1 (s.load foreignKeys n size).2.2 := by
  rcases s.load_cases foreignKeys n size with
    ⟨hs, h⟩ | ⟨hm, h⟩ | ⟨hs, hm, hfits, log, h⟩ | ⟨hs, hm, r, hr, f, number, rows, log, hf, h⟩
  · rw [h]
    exact .zeroBatches hs
  · rw [h]
    exact .tooLarge hm
  · rw [h]
    exact .whole hs hm (fits_population_iff.mp hfits) (Tables.records_loaded n)
  · obtain ⟨ho, rfl⟩ := unfit?_eq_some_iff.mp hf
    rw [h]
    exact .unfit hs hm hr ho

variable {n} in
theorem load_of_unfit (hfits : ¬∀ r ∈ population n, fits r.owner = true) {size : Nat}
    (hm : size ≤ maxBatch) :
    ∃ f log, s.load foreignKeys n size = (.error (.failure f), log, ofTables .empty) := by
  rcases s.load_cases foreignKeys n size with
    ⟨-, h⟩ | ⟨hlt, -⟩ | ⟨-, -, hall, -⟩ | ⟨-, -, r, -, f, _, _, log, -, h⟩
  · exact ⟨_, [], h⟩
  · exact absurd hm (Nat.not_le_of_lt hlt)
  · exact absurd hall hfits
  · exact ⟨_, log, h⟩

/-- What is loaded does not depend on the batches, as long as there are any and a buffer can be made
for them. -/
theorem load_congr (other : Store) (otherForeignKeys : Bool) {size otherSize : Nat} (hs : 0 < size)
    (hm : size ≤ maxBatch) (ho : 0 < otherSize) (hom : otherSize ≤ maxBatch) :
    (other.load otherForeignKeys n otherSize).2.2 = (s.load foreignKeys n size).2.2 ∧
      match (s.load foreignKeys n size).1 with
      | .ok stats => ∃ batches,
        (other.load otherForeignKeys n otherSize).1 = .ok { stats with batches }
      | .error _ => ∃ f, (other.load otherForeignKeys n otherSize).1 = .error (.failure f) := by
  by_cases hfits : ∀ r ∈ population n, fits r.owner = true
  · obtain ⟨_, h⟩ := s.load_of_fits hfits hs hm foreignKeys
    obtain ⟨_, h'⟩ := other.load_of_fits hfits ho hom otherForeignKeys
    rw [h, h']
    exact ⟨rfl, _, rfl⟩
  · obtain ⟨f, _, h⟩ := load_of_unfit foreignKeys s hfits hm
    obtain ⟨f', _, h'⟩ := load_of_unfit otherForeignKeys other hfits hom
    rw [h, h']
    exact ⟨rfl, f', rfl⟩

end Store

theorem Session.load_eq {s : Session} (hs : s.lock = none) (n : UInt64) (size : Nat) :
    (s.load n size).1 = (s.store.load s.options.foreignKeys n size).1 ∧
      (s.load n size).2.2.store = (s.store.load s.options.foreignKeys n size).2.2 := by
  simp [load, hs]

/-- Whatever was in the database before, a load leaves all of the population, or it fails or panics
for a reason of its own and leaves empty tables. Two loads of as many subscribers, from any two
states and in batches of any two sizes for which a buffer can be made, leave the same; both succeed
or both fail, and if they succeed nothing but the number of batches is different. -/
theorem load_all_or_nothing {s : Session} (hlock : s.lock = none) (n : UInt64) (size : Nat) :
    LoadEnd n size (s.load n size).1 (s.load n size).2.2.store ∧
    ∀ (other : Session) (otherSize : Nat), other.lock = none → 0 < size → 0 < otherSize →
      size ≤ maxBatch → otherSize ≤ maxBatch →
      (other.load n otherSize).2.2.store = (s.load n size).2.2.store ∧
      match (s.load n size).1 with
      | .ok stats => ∃ batches, (other.load n otherSize).1 = .ok { stats with batches }
      | .error _ => ∃ f, (other.load n otherSize).1 = .error (.failure f) := by
  obtain ⟨hresult, hstore⟩ := Session.load_eq hlock n size
  rw [hresult, hstore]
  refine ⟨s.store.load_end _ n size, ?_⟩
  intro other otherSize hother hs ho hm hom
  obtain ⟨hresult', hstore'⟩ := Session.load_eq hother n otherSize
  rw [hresult', hstore']
  exact s.store.load_congr _ n other.store _ hs hm ho hom

/-- In batches of no rows, or with an id that does not fit, a load clears away what was there. In
batches of two or of seven rows, it leaves the same. -/
theorem load_all_or_nothing_leftover :
    let s := Session.on 1 true leftover
    (s.load 3 0).2.2.store = .ofTables .empty ∧
    (s.load 0x8000000000000000 2).2.2.store = .ofTables .empty ∧
    ((Session.on 1 false .bare).load 3 7).2.2.store = (s.load 3 2).2.2.store := by
  intro s
  have h (n : UInt64) (size : Nat) := load_all_or_nothing (show s.lock = none from rfl) n size
  refine ⟨?_, ?_, ?_⟩
  · have hend := (h 3 0).1
    generalize (s.load 3 0).1 = result, (s.load 3 0).2.2.store = u at hend ⊢
    cases hend with
    | whole hs => exact absurd hs (by decide)
    | zeroBatches | unfit | tooLarge => rfl
  · have hend := (h 0x8000000000000000 2).1
    generalize (s.load 0x8000000000000000 2).1 = result,
      (s.load 0x8000000000000000 2).2.2.store = u at hend ⊢
    cases hend with
    | whole _ _ hn => exact absurd hn (by decide)
    | zeroBatches | unfit | tooLarge => rfl
  · exact ((h 3 2).2 (Session.on 1 false .bare) 7 rfl (by decide) (by decide) (by decide)
      (by decide)).1

/-- In batches of one row a subscriber is loaded. In batches that no buffer can be made for the same
load panics, so that they do not end alike. -/
theorem load_all_or_nothing_tooLarge :
    let s := Session.on 1 true leftover
    (∃ stats, (s.load 1 1).1 = .ok stats) ∧
    (s.load 1 0xffffffffffffffff).1 = .error (.panic "capacity overflow") ∧
    (s.load 1 0xffffffffffffffff).2.2.store ≠ (s.load 1 1).2.2.store := by
  intro s
  have hlock : s.lock = none := rfl
  obtain ⟨hone, hstore⟩ := Session.load_eq hlock 1 1
  obtain ⟨hmost, hmostStore⟩ := Session.load_eq hlock 1 0xffffffffffffffff
  obtain ⟨stats, log, t, hload, hperm, -⟩ := Store.load_ok
    (show (1 : UInt64).toNat ≤ Nat.pow 2 59 by decide) Nat.one_pos (by decide)
    s.options.foreignKeys s.store
  have hpanic := Store.load_of_tooLarge (show maxBatch < 0xffffffffffffffff by decide)
    s.options.foreignKeys 1 s.store
  rw [hload] at hone hstore
  rw [hpanic] at hmost hmostStore
  refine ⟨⟨stats, hone⟩, hmost, ?_⟩
  rw [hstore, hmostStore]
  intro h
  obtain rfl : Tables.empty = t := congrArg Store.tables h
  obtain ⟨r, hr, -⟩ := exists_subscriber (UInt64.le_refl 1) (UInt64.le_refl 1)
  exact absurd (hperm.mem_iff.mpr hr) (by simp [Tables.records, Tables.empty])

end StoreBench.Telecom
