import RecordMapper.Proofs.Traversal
import RecordMapper.Session.Record

/-!
# Clause sets and statements

What setting a clause does to a set, and the statement that an operation assembles from the clauses
taken and a clause of its own: the fragments of the operation's shape that are held, in the order of
the shape.
-/

namespace RecordMapper

theorem Clause.fragment_of_render {d : Dialect} {c : Clause} {f : Fragment}
    (h : c.render d = .ok f) : c.fragment d = .ok f := by
  unfold render at h
  split at h
  · next g hg => exact hg.trans (congrArg _ (Except.ok.inj h))
  · cases h

theorem Statement.ofFragments_pair (f g : Fragment) :
    ofFragments [f, g] = ⟨f.sql ++ " " ++ g.sql, f.params ++ g.params⟩ := by
  simp [ofFragments, String.intercalate_cons_cons]

namespace ClauseSet

theorem set_of_ok {s : ClauseSet} {c : Clause} {f : Fragment} (h : c.render s.dialect = .ok f) :
    s.set c = (.ok (s.get? c.kind), s.put c.kind (some f)) := by
  simp [set, h]

theorem set_of_error {s : ClauseSet} {c : Clause} {e : Error} (h : c.render s.dialect = .error e) :
    s.set c = (.error e, s) := by
  simp [set, h]

@[simp]
theorem dialect_empty (d : Dialect) : (empty d).dialect = d := rfl

@[simp]
theorem put_put (s : ClauseSet) (k : Clause.Kind) (f g : Option Fragment) :
    (s.put k f).put k g = s.put k g := by
  ext j
  · rfl
  · by_cases h : j = k <;> simp [h]

/-- Kinds that differ build the statement of the fragments held for them. -/
theorem build_of_ne_nil {s : ClauseSet} {ks : List Clause.Kind} (hr : repeated? [] ks = none)
    (hn : ks.filterMap s.get? ≠ []) : s.build ks = .ok (.ofFragments (ks.filterMap s.get?)) := by
  unfold build
  rw [hr]
  cases hf : ks.filterMap s.get? with
  | nil => exact absurd hf hn
  | cons f fs => rfl

theorem filterMap_put {s : ClauseSet} {k : Clause.Kind} {f : Option Fragment}
    {ks : List Clause.Kind} (h : k ∉ ks) :
    ks.filterMap (s.put k f).get? = ks.filterMap s.get? := by
  induction ks with
  | nil => rfl
  | cons j ks ih =>
    rw [List.mem_cons, not_or] at h
    simp [List.filterMap_cons, Ne.symm h.1, ih h.2]

/-- Nothing is repeated in a list of different kinds, none of which was seen before. -/
theorem repeated?_eq_none_iff {seen ks : List Clause.Kind} :
    repeated? seen ks = none ↔ ks.Nodup ∧ ∀ k ∈ ks, k ∉ seen := by
  induction ks generalizing seen with
  | nil => simp [repeated?]
  | cons k ks ih =>
    rw [repeated?, List.nodup_cons, List.forall_mem_cons]
    by_cases hk : k ∈ seen
    · simp [hk]
    · rw [if_neg hk, ih]
      constructor
      · rintro ⟨hn, hs⟩
        refine ⟨⟨fun hm => hs k hm List.mem_cons_self, hn⟩, hk, fun j hj hj' => ?_⟩
        exact hs j hj (List.mem_cons_of_mem _ hj')
      · rintro ⟨⟨hm, hn⟩, -, hs⟩
        refine ⟨hn, fun j hj hj' => ?_⟩
        rcases List.mem_cons.1 hj' with rfl | hj'
        · exact hm hj
        · exact hs j hj hj'

/-- What is repeated is the first kind that was met before. -/
theorem exists_of_repeated? {seen ks : List Clause.Kind} {k : Clause.Kind}
    (h : repeated? seen ks = some k) :
    ∃ ahead behind, ks = ahead ++ k :: behind ∧ repeated? seen ahead = none ∧
      (k ∈ ahead ∨ k ∈ seen) := by
  induction ks generalizing seen with
  | nil => cases h
  | cons j ks ih =>
    rw [repeated?] at h
    by_cases hj : j ∈ seen
    · rw [if_pos hj] at h
      cases h
      exact ⟨[], ks, rfl, rfl, .inr hj⟩
    · rw [if_neg hj] at h
      obtain ⟨ahead, behind, rfl, hn, hk⟩ := ih h
      refine ⟨j :: ahead, behind, rfl, by rw [repeated?, if_neg hj, hn], ?_⟩
      rcases hk with hk | hk
      · exact .inl (List.mem_cons_of_mem _ hk)
      · rcases List.mem_cons.1 hk with rfl | hk
        · exact .inl List.mem_cons_self
        · exact .inr hk

end ClauseSet

namespace Session

/-- An operation's statement consists of its own fragment and the collected ones of its shape. -/
theorem assemble_of_ok {clauses : ClauseSet} {c : Clause} {f : Fragment}
    {shape : List Clause.Kind} (h : c.render clauses.dialect = .ok f)
    (hr : ClauseSet.repeated? [] shape = none) (hc : c.kind ∈ shape) :
    assemble clauses c shape =
      .ok (.ofFragments (shape.filterMap (clauses.put c.kind (some f)).get?)) := by
  unfold assemble
  rw [ClauseSet.set_of_ok h]
  refine ClauseSet.build_of_ne_nil hr fun hn => ?_
  have hf := List.filterMap_eq_nil_iff.1 hn _ hc
  simp at hf

/-- A clause at the head of the shape stands first, before the collected fragments. -/
theorem assemble_head {clauses : ClauseSet} {c : Clause} {f : Fragment} {kinds : List Clause.Kind}
    (h : c.render clauses.dialect = .ok f)
    (hr : ClauseSet.repeated? [] (c.kind :: kinds) = none) :
    assemble clauses c (c.kind :: kinds) =
      .ok (.ofFragments (f :: kinds.filterMap clauses.get?)) := by
  rw [assemble_of_ok h hr List.mem_cons_self]
  have hk : c.kind ∉ kinds := (List.nodup_cons.1 (ClauseSet.repeated?_eq_none_iff.1 hr).1).1
  rw [List.filterMap_cons_some (b := f) (by simp), ClauseSet.filterMap_put hk]

theorem assemble_of_error {clauses : ClauseSet} {c : Clause} {e : Error}
    {shape : List Clause.Kind} (h : c.render clauses.dialect = .error e) :
    assemble clauses c shape = .error e := by
  simp [assemble, ClauseSet.set_of_error h]

end Session

end RecordMapper
