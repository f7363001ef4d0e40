import StoreBench.Proofs.Telecom.Requests

/-!
Requests stay among the loaded keys, whatever has been asked of the stream of requests before.
-/
namespace StoreBench.Telecom

open StoreBench.Random

namespace Traffic

/-- What calls can make of a stream of requests, in any order: the next request, the next kind
alone, or a request of any given kind. -/
inductive Reaches (t : Traffic) : Traffic → Prop where
  | refl : Reaches t t
  | next {u : Traffic} (h : Reaches t u) : Reaches t u.next.2
  | nextKind {u : Traffic} (h : Reaches t u) : Reaches t u.nextKind.2
  | generate {u : Traffic} (h : Reaches t u) (kind : ProcedureKind) :
      Reaches t (u.generate kind).2

theorem Reaches.subscribers_eq {t u : Traffic} (h : t.Reaches u) :
    u.subscribers = t.subscribers := by
  induction h with
  | refl => rfl
  | @next u _ ih => exact u.subscribers_next.trans ih
  | nextKind _ ih => exact ih
  | generate _ _ ih => exact ih

theorem generate_inSpace {t : Traffic} (h : 1 ≤ t.subscribers) (kind : ProcedureKind) :
    (t.generate kind).1.kindOf = kind ∧ (t.generate kind).1.InSpace t.subscribers :=
  drawProcedure_inSpace h kind t.stream

theorem ofStream_eq_error_iff {n : UInt64} {stream : Stream} {f : Failure} :
    ofStream n stream = .error f ↔ n = 0 ∧ f = .ofCause .noSubscribers := by
  unfold ofStream
  by_cases h : n = 0
  · simp [h, eq_comm]
  · simp [h]

theorem ofStream_eq_ok {n : UInt64} {stream : Stream} {t : Traffic}
    (h : ofStream n stream = .ok t) : 1 ≤ n ∧ t = ⟨n, stream⟩ := by
  unfold ofStream at h
  by_cases hn : n = 0
  · rw [if_pos hn] at h
    cases h
  · rw [if_neg hn] at h
    refine ⟨?_, (Except.ok.inj h).symm⟩
    have hne : n.toNat ≠ 0 := fun h0 => hn (UInt64.toNat_inj.mp h0)
    have h1 : (1 : UInt64).toNat = 1 := rfl
    rw [UInt64.le_iff_toNat_le]
    omega

end Traffic

/-- There is a stream of requests about any number of subscribers but none. Whatever has been asked
of it, and whatever is random about it, a request is of the kind that it is asked for. It is about
one of the subscribers, and its other inputs have values of their domains. The next request is one
of the next kind. -/
theorem requests_stay_in_key_space (n : UInt64) (stream : Stream) :
    ((∃ f, Traffic.ofStream n stream = .error f) ↔ n = 0) ∧
    ∀ first, Traffic.ofStream n stream = .ok first → ∀ t, first.Reaches t →
      t.next = t.nextKind.2.generate t.nextKind.1 ∧
      ∀ kind, (t.generate kind).1.kindOf = kind ∧ (t.generate kind).1.InSpace n := by
  constructor
  · simp [Traffic.ofStream_eq_error_iff]
  · intro first hfirst t ht
    obtain ⟨hn, rfl⟩ := Traffic.ofStream_eq_ok hfirst
    have hsub : t.subscribers = n := ht.subscribers_eq
    refine ⟨rfl, ?_⟩
    intro kind
    have h := t.generate_inSpace (hsub ▸ hn) kind
    rwa [hsub] at h

/-- With as many subscribers as there can be, after some calls of each sort. -/
theorem requests_stay_in_key_space_most :
    ∃ first, Traffic.ofSeed 0xffffffffffffffff 7 = .ok first ∧
      ∀ kind, (((first.next.2.nextKind.2.generate .updateLocation).2.generate kind).1).InSpace
        0xffffffffffffffff := by
  refine ⟨⟨0xffffffffffffffff, Stream.ofSeed 7⟩, rfl, ?_⟩
  intro kind
  have h := (requests_stay_in_key_space 0xffffffffffffffff (Stream.ofSeed 7)).2 _ rfl _
    (.generate (.nextKind (.next .refl)) .updateLocation)
  exact (h.2 kind).2

end StoreBench.Telecom
