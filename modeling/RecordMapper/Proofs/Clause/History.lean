import Mathlib.Data.List.Induction
import RecordMapper.Proofs.Clause.Set

/-!
# Clause sets over time

What a clause set holds for a kind after any calls is told by the last call that had a say in it:
the fragment of that call if it was a `set`, and nothing if the kind was removed or the set cleared.
A `set` that fails and a `build` have no say. Building is a homomorphism from lists of kinds: the
statement of two lists, one behind the other, is made of the statements of both.
-/

namespace RecordMapper

/-- Two statements in one text. -/
def Statement.join (a b : Statement) : Statement :=
  ⟨a.sql ++ " " ++ b.sql, a.params ++ b.params⟩

theorem Statement.ofFragments_append {fs gs : List Fragment} (hf : fs ≠ []) (hg : gs ≠ []) :
    ofFragments (fs ++ gs) = (ofFragments fs).join (ofFragments gs) := by
  have hf' : fs.map (·.sql) ≠ [] := mt List.map_eq_nil_iff.1 hf
  have hg' : gs.map (·.sql) ≠ [] := mt List.map_eq_nil_iff.1 hg
  simp only [ofFragments, join, List.map_append, List.flatMap_append,
    String.intercalate_append_of_ne_nil hf' hg']

namespace ClauseSet

/-- A call that can be made on a clause set. -/
inductive Use where
  | set (c : Clause)
  | remove (k : Clause.Kind)
  | clear
  | build (ks : List Clause.Kind)

/-- The set that a call leaves behind. -/
def step (s : ClauseSet) : Use → ClauseSet
  | .set c => (s.set c).2
  | .remove k => (s.remove k).2
  | .clear => s.clear
  | .build _ => s

/-- The set after some calls, the first of them made first. -/
def after (past : List Use) (s : ClauseSet) : ClauseSet :=
  past.foldl step s

theorem after_concat (past : List Use) (u : Use) (s : ClauseSet) :
    after (past ++ [u]) s = (after past s).step u := by
  simp [after]

/-- The call has a say in what a set of the dialect holds for the kind. -/
def Use.Decides (d : Dialect) (k : Clause.Kind) : Use → Prop
  | .set c => c.kind = k ∧ ∃ f, c.render d = .ok f
  | .remove j => j = k
  | .clear => True
  | .build _ => False

section Step

variable {s : ClauseSet} {k : Clause.Kind} {u : Use}

theorem dialect_step (s : ClauseSet) (u : Use) : (s.step u).dialect = s.dialect := by
  cases u with
  | set c =>
    cases h : c.render s.dialect with
    | ok f => rw [step, set_of_ok h, dialect_put]
    | error err => rw [step, set_of_error h]
  | _ => rfl

theorem dialect_after (past : List Use) (s : ClauseSet) : (after past s).dialect = s.dialect := by
  induction past generalizing s with
  | nil => rfl
  | cons u past ih => exact (ih (s.step u)).trans (dialect_step s u)

theorem get?_step_of_not_decides (h : ¬ u.Decides s.dialect k) :
    (s.step u).get? k = s.get? k := by
  cases u with
  | set c =>
    cases hc : c.render s.dialect with
    | error err => rw [step, set_of_error hc]
    | ok f =>
      have hk : k ≠ c.kind := fun hk => h ⟨hk.symm, f, hc⟩
      rw [step, set_of_ok hc, get?_put, if_neg hk]
  | remove j =>
    have hk : k ≠ j := fun hk => h hk.symm
    rw [step, remove, get?_put, if_neg hk]
  | clear => exact absurd trivial h
  | build ks => rfl

/-- A call that decides what is held for a kind leaves a fragment only if it sets it. -/
theorem get?_step_of_decides (h : u.Decides s.dialect k) {f : Fragment} :
    (s.step u).get? k = some f ↔ ∃ c, u = .set c ∧ c.render s.dialect = .ok f := by
  cases u with
  | set c =>
    obtain ⟨rfl, g, hg⟩ := h
    rw [step, set_of_ok hg, get?_put, if_pos rfl]
    constructor
    · rintro ⟨⟩
      exact ⟨c, rfl, hg⟩
    · rintro ⟨_, ⟨⟩, hf⟩
      exact congrArg some (Except.ok.inj (hg.symm.trans hf))
  | remove j =>
    cases h
    rw [step, remove, get?_put, if_pos rfl]
    exact ⟨nofun, nofun⟩
  | clear => exact ⟨nofun, nofun⟩
  | build ks => exact h.elim

end Step

/-- The fragment was rendered for a `set` of the kind, and no call since had a say in the kind. -/
def LastSet (d : Dialect) (past : List Use) (k : Clause.Kind) (f : Fragment) : Prop :=
  ∃ ahead c behind, past = ahead ++ .set c :: behind ∧ c.kind = k ∧ c.render d = .ok f ∧
    ∀ u ∈ behind, ¬ u.Decides d k

section LastSet

variable {d : Dialect} {past : List Use} {u : Use} {k : Clause.Kind} {f : Fragment}

theorem lastSet_concat_of_decides (h : u.Decides d k) :
    LastSet d (past ++ [u]) k f ↔ ∃ c, u = .set c ∧ c.render d = .ok f := by
  constructor
  · rintro ⟨ahead, c, behind, hpast, -, hf, hb⟩
    rcases List.eq_nil_or_concat behind with rfl | ⟨behind, v, rfl⟩
    · obtain ⟨-, hu⟩ := List.append_inj' hpast rfl
      exact ⟨c, List.singleton_inj.1 hu, hf⟩
    · rw [List.concat_eq_append, ← List.cons_append, ← List.append_assoc] at hpast
      obtain ⟨-, hu⟩ := List.append_inj' hpast rfl
      cases hu
      exact absurd h (hb u (by simp))
  · rintro ⟨c, rfl, hf⟩
    exact ⟨past, c, [], rfl, h.1, hf, List.forall_mem_nil _⟩

theorem lastSet_concat_of_not_decides (h : ¬ u.Decides d k) :
    LastSet d (past ++ [u]) k f ↔ LastSet d past k f := by
  constructor
  · rintro ⟨ahead, c, behind, hpast, hk, hf, hb⟩
    rcases List.eq_nil_or_concat behind with rfl | ⟨behind, v, rfl⟩
    · obtain ⟨-, hu⟩ := List.append_inj' hpast rfl
      cases hu
      exact absurd ⟨hk, f, hf⟩ h
    · rw [List.concat_eq_append, ← List.cons_append, ← List.append_assoc] at hpast
      obtain ⟨hpast, -⟩ := List.append_inj' hpast rfl
      refine ⟨ahead, c, behind, hpast, hk, hf, fun w hw => ?_⟩
      exact hb w (by simp [hw])
  · rintro ⟨ahead, c, behind, rfl, hk, hf, hb⟩
    refine ⟨ahead, c, behind ++ [u], by simp, hk, hf, ?_⟩
    exact List.forall_mem_append.2 ⟨hb, List.forall_mem_singleton.2 h⟩

/-- By induction on the calls from the last one backwards. -/
theorem get?_after_eq_some_iff :
    (after past (empty d)).get? k = some f ↔ LastSet d past k f := by
  induction past using List.reverseRecOn with
  | nil =>
    refine ⟨nofun, ?_⟩
    rintro ⟨ahead, c, behind, hpast, -⟩
    cases ahead <;> cases hpast
  | append_singleton past u ih =>
    have hd : (after past (empty d)).dialect = d := dialect_after past (empty d)
    rw [after_concat]
    by_cases h : u.Decides d k
    · rw [lastSet_concat_of_decides h, get?_step_of_decides (hd.symm ▸ h), hd]
    · rw [lastSet_concat_of_not_decides h, get?_step_of_not_decides (hd.symm ▸ h), ih]

end LastSet

/-! ## Building -/

section Build

variable {s : ClauseSet} {ks ls : List Clause.Kind}

theorem build_of_repeated (h : ¬ ks.Nodup) :
    ∃ ahead k behind, ks = ahead ++ k :: behind ∧ ahead.Nodup ∧ k ∈ ahead ∧
      s.build ks = .error (.clause (.repeated k)) := by
  cases hr : repeated? [] ks with
  | none => exact absurd (repeated?_eq_none_iff.1 hr).1 h
  | some k =>
    obtain ⟨ahead, behind, rfl, hn, hk⟩ := exists_of_repeated? hr
    refine ⟨ahead, k, behind, rfl, (repeated?_eq_none_iff.1 hn).1, ?_, by rw [build, hr]⟩
    exact hk.resolve_right List.not_mem_nil

theorem build_of_nothing_held (hn : ks.Nodup) (h : ks.filterMap s.get? = []) :
    s.build ks = .error (.clause (.nothingSet ks)) := by
  have hr : repeated? [] ks = none := repeated?_eq_none_iff.2 ⟨hn, fun _ _ => List.not_mem_nil⟩
  rw [build, hr, h]

theorem build_of_held (hn : ks.Nodup) (h : ks.filterMap s.get? ≠ []) :
    s.build ks = .ok (.ofFragments (ks.filterMap s.get?)) :=
  build_of_ne_nil (repeated?_eq_none_iff.2 ⟨hn, fun _ _ => List.not_mem_nil⟩) h

theorem exists_build_iff :
    (∃ st, s.build ks = .ok st) ↔ ks.Nodup ∧ ∃ k ∈ ks, ∃ f, s.get? k = some f := by
  have hheld : ks.filterMap s.get? ≠ [] ↔ ∃ k ∈ ks, ∃ f, s.get? k = some f := by
    simp only [ne_eq, List.filterMap_eq_nil_iff, not_forall, Option.ne_none_iff_exists',
      exists_prop]
  rw [← hheld]
  constructor
  · rintro ⟨st, hst⟩
    by_cases hn : ks.Nodup
    · refine ⟨hn, fun h => ?_⟩
      cases (build_of_nothing_held hn h).symm.trans hst
    · obtain ⟨_, k, _, _, _, _, hk⟩ := build_of_repeated (s := s) hn
      cases hk.symm.trans hst
  · rintro ⟨hn, h⟩
    exact ⟨_, build_of_held hn h⟩

/-- Building two lists of kinds, one behind the other, joins what is built of each. -/
theorem build_append (h : (ks ++ ls).Nodup) :
    (s.build (ks ++ ls)).toOption =
      Option.merge .join (s.build ks).toOption (s.build ls).toOption := by
  obtain ⟨hks, hls, -⟩ := List.nodup_append.1 h
  have happend : (ks ++ ls).filterMap s.get? = ks.filterMap s.get? ++ ls.filterMap s.get? :=
    List.filterMap_append
  by_cases hk : ks.filterMap s.get? = []
  · rw [build_of_nothing_held hks hk]
    by_cases hl : ls.filterMap s.get? = []
    · rw [build_of_nothing_held hls hl, build_of_nothing_held h (by rw [happend, hk, hl]; rfl)]
      rfl
    · rw [hk, List.nil_append] at happend
      rw [build_of_held hls hl, build_of_held h (happend ▸ hl), happend]
      rfl
  · rw [build_of_held hks hk]
    by_cases hl : ls.filterMap s.get? = []
    · rw [hl, List.append_nil] at happend
      rw [build_of_nothing_held hls hl, build_of_held h (happend ▸ hk), happend]
      rfl
    · have hne : (ks ++ ls).filterMap s.get? ≠ [] := by
        rw [happend]
        exact List.append_ne_nil_of_left_ne_nil hk _
      rw [build_of_held hls hl, build_of_held h hne, happend, Statement.ofFragments_append hk hl]
      rfl

end Build

/-- What a clause set holds and what it builds, after any calls on an empty set of any dialect.

It holds the fragments that were set last. A `set` that fails changes nothing; otherwise `set` and
`remove` give back the fragment held before. A list of kinds that differ is built if one of them is
held; of a list that repeats a kind the first such kind is reported, held or not. What is built of a
list in two parts is what is built of both parts, joined by a space. -/
theorem holds_last_set_and_builds_in_order (d : Dialect) (past : List Use) :
    let s := after past (empty d)
    (∀ k f, s.get? k = some f ↔ LastSet d past k f) ∧
    (∀ c err, c.render d = .error err → s.set c = (.error err, s)) ∧
    (∀ c f, c.render d = .ok f → (s.set c).1 = .ok (s.get? c.kind)) ∧
    (∀ k, (s.remove k).1 = s.get? k) ∧
    (∀ ks, (∃ st, s.build ks = .ok st) ↔ ks.Nodup ∧ ∃ k ∈ ks, ∃ f, s.get? k = some f) ∧
    (∀ ks, ¬ ks.Nodup → ∃ ahead k behind, ks = ahead ++ k :: behind ∧ ahead.Nodup ∧ k ∈ ahead ∧
      s.build ks = .error (.clause (.repeated k))) ∧
    (∀ ks ls, (ks ++ ls).Nodup → (s.build (ks ++ ls)).toOption =
      Option.merge .join (s.build ks).toOption (s.build ls).toOption) := by
  intro s
  have hd : s.dialect = d := dialect_after past (empty d)
  refine ⟨fun k f => get?_after_eq_some_iff, fun c err hc => ?_, fun c f hc => ?_, fun k => rfl,
    fun ks => exists_build_iff, fun ks => build_of_repeated, fun ks ls => build_append⟩
  · exact set_of_error (hd.symm ▸ hc)
  · rw [set_of_ok (hd.symm ▸ hc)]

/-- A limit and two filters, of which the second lacks its parameter. -/
theorem holds_last_set_and_builds_in_order_filters :
    let s := after [.set (.limit (.zero _)), .set (.filter " a = ?" [.ofInt 1]),
      .set (.filter "b = ?" []), .build [.limit, .limit], .remove .order] (empty .mysql)
    s.get? .filter = some ⟨"WHERE a = ?", [.ofInt 1]⟩ ∧
    (s.build ([.select, .filter] ++ [.limit])).toOption =
      some ⟨"WHERE a = ? LIMIT ?", [.ofInt 1, .ofInt 0]⟩ ∧
    ∃ k, s.build [.limit, .count, .count] = .error (.clause (.repeated k)) := by
  intro s
  obtain ⟨hget, -, -, -, -, hrepeated, happend⟩ :=
    holds_last_set_and_builds_in_order .mysql [.set (.limit (.zero _)),
      .set (.filter " a = ?" [.ofInt 1]), .set (.filter "b = ?" []), .build [.limit, .limit],
      .remove .order]
  refine ⟨?_, ?_, ?_⟩
  · refine (hget .filter _).2 ⟨[.set (.limit (.zero _))], _, _, rfl, rfl, rfl, ?_⟩
    have hfails : (Clause.filter "b = ?" []).render .mysql =
        .error (.clause (.render .filter (.placeholderCount 1 0))) := rfl
    simp [Use.Decides, hfails]
  · exact (happend [.select, .filter] [.limit] (by decide)).trans rfl
  · obtain ⟨_, k, _, _, _, _, hk⟩ := hrepeated [.limit, .count, .count] (by decide)
    exact ⟨k, hk⟩

end ClauseSet

end RecordMapper
