import RecordMapper.Proofs.Clause.Fragment
import RecordMapper.Proofs.Executor.Alike
import RecordMapper.Proofs.Executor.Fetched
import RecordMapper.Proofs.Schema.Declared
import RecordMapper.Proofs.Session.Protocol

/-!
# What queries and counts answer

A query given as text and a count both collect the rows of a cursor before they look at them.
`Collects` ranks what can go wrong on the way: a row that cannot be scanned comes before the error
behind the rows, and that before the one at the closing. A count reads the first cell of rows that
were all collected, as `Counts` describes.
-/

namespace RecordMapper

/-- What comes of collecting fetched rows, with an error behind them and one at the closing. -/
inductive Collects (rows : List FetchedRow) (trailing closeError : Option Error) :
    Except Error (List (List Value)) → Prop
  | all (values : List (List Value)) (hrows : rows = values.map .ok) (ht : trailing = none)
    (hc : closeError = none) : Collects rows trailing closeError (.ok values)
  | row (ahead : List (List Value)) (f : RowFailure) (behind : List FetchedRow)
    (hrows : rows = ahead.map .ok ++ .error f :: behind) :
    Collects rows trailing closeError
      (.error (.scan (ahead.length + 1) f.column (.reported f.reason)))
  | trailing (values : List (List Value)) (hrows : rows = values.map .ok) {err : Error}
    (ht : trailing = some err) : Collects rows trailing closeError (.error err)
  | closing (values : List (List Value)) (hrows : rows = values.map .ok) (ht : trailing = none)
    {err : Error} (hc : closeError = some err) : Collects rows trailing closeError (.error err)

/-- The count that rows tell: the integer in the first cell of the first row, whatever else there
is. -/
inductive Counts : List (List Value) → Except Error Int → Prop
  | number (i : Integer64) (cells : List Value) (rows : List (List Value)) :
    Counts ((.integer i :: cells) :: rows) (.ok i.val)
  | noRow : Counts [] (.error (.scan 1 "COUNT(*)" .noRows))
  | noCell (rows : List (List Value)) : Counts ([] :: rows) (.error (.scan 1 "COUNT(*)" .noRows))
  | notNumber (v : Value) (hv : v.kind ≠ .integer) (cells : List Value)
    (rows : List (List Value)) :
    Counts ((v :: cells) :: rows)
      (.error (.scan 1 "COUNT(*)" (.conversion (.mismatch (.integer .i64) v.kind))))

section Collecting

variable {rows : List FetchedRow} {trailing closeError : Option Error}
  {r : Except Error (List (List Value))}

/-- Rows were all scanned, or one of them is the first that was not. -/
theorem FetchedRow.scanned_or_first_failure (rows : List FetchedRow) :
    (∃ values : List (List Value), rows = values.map .ok) ∨
      ∃ (ahead : List (List Value)) (f : RowFailure) (behind : List FetchedRow),
        rows = ahead.map .ok ++ .error f :: behind := by
  induction rows with
  | nil => exact .inl ⟨[], rfl⟩
  | cons row rows ih =>
    cases row with
    | error f => exact .inr ⟨[], f, rows, rfl⟩
    | ok values =>
      rcases ih with ⟨rest, rfl⟩ | ⟨ahead, f, behind, rfl⟩
      · exact .inl ⟨values :: rest, rfl⟩
      · exact .inr ⟨values :: ahead, f, behind, rfl⟩

theorem exists_collects (rows : List FetchedRow) (trailing closeError : Option Error) :
    ∃ r, Collects rows trailing closeError r := by
  rcases FetchedRow.scanned_or_first_failure rows with ⟨values, h⟩ | ⟨ahead, f, behind, h⟩
  · cases trailing with
    | some err => exact ⟨_, .trailing values h rfl⟩
    | none =>
      cases closeError with
      | some err => exact ⟨_, .closing values h rfl rfl⟩
      | none => exact ⟨_, .all values h rfl rfl⟩
  · exact ⟨_, .row ahead f behind h⟩

/-- A reading that collects the rows of a cursor ends in the way that is described, and what it has
collected is then all there is. -/
theorem Collects.ends (h : Collects rows trailing closeError r) :
    ∃ outcome values closed,
      (Cursor.consume Session.collectRow 0 [] (ScriptedCursor.ofRows rows trailing closeError)).Ends
        outcome values closed ∧
      (outcome.bind fun _ => closed).map (fun _ => values) = r := by
  have htake (values : List (List Value)) :
      Cursor.takeAll Session.collectRow 0 values [] = .ok values := Session.takeAll_collectRow 0 _ _
  cases h with
  | all values hrows ht hc =>
    subst hrows ht hc
    exact ⟨_, _, _, ScriptedCursor.consume_all (htake values) none none, rfl⟩
  | row ahead f behind hrows =>
    subst hrows
    exact ⟨_, _, _, ScriptedCursor.consume_first_failing (htake ahead) rfl behind _ _, rfl⟩
  | trailing values hrows ht =>
    subst hrows ht
    exact ⟨_, _, _, ScriptedCursor.consume_all (htake values) _ _, rfl⟩
  | closing values hrows ht hc =>
    subst hrows ht hc
    exact ⟨_, _, _, ScriptedCursor.consume_all (htake values) none _, rfl⟩

end Collecting

/-- A count reads the first cell of the first row. -/
theorem countOfRows_eq_iff {rows : List (List Value)} {r : Except Error Int} :
    Session.countOfRows rows = r ↔ Counts rows r := by
  have hnumber (i : Integer64) : ScalarType.fromValue (.integer .i64) (.integer i) = .ok i :=
    ScalarType.fromValue_integer_eq_ok_iff.2 rfl
  constructor
  · rintro rfl
    rcases rows with _ | ⟨_ | ⟨v, cells⟩, rows⟩
    · exact .noRow
    · exact .noCell rows
    · cases v with
      | integer i =>
        have h : Session.countOfRows ((.integer i :: cells) :: rows) = .ok i.val := by
          simp only [Session.countOfRows, List.head?_cons, Option.bind_some, hnumber]
        rw [h]
        exact .number i cells rows
      | null | real | text | bool | timestamp =>
        exact .notNumber _ (by simp [Value.kind]) cells rows
  · intro h
    cases h with
    | number i cells rows =>
      simp only [Session.countOfRows, List.head?_cons, Option.bind_some, hnumber]
    | noRow | noCell => rfl
    | notNumber v hv cells rows => cases v <;> first | rfl | exact absurd rfl hv

namespace Operation

open Session

variable {F : Family} {σ κ : Type} [Cursor κ] {e : Engine F σ κ} {s : Session}

/-- A count of a valid model has a statement wherever no clause has failed to render. -/
theorem exists_statement_count {k : F.Key} {schema : TableSchema (F.Rec k)}
    (hd : TableSchema.derive (F.model k) = .ok schema) (hs : s.pending = none) :
    ∃ st, (count k).statement? s = some (.ok st) := by
  have hname := (TableSchema.wellFormed_of_derive hd).name
  have ht : s.taken = .ok s.clauses := by rw [taken, hs]
  have ha : assemble s.clauses (.count schema.name) countShape = _ :=
    assemble_head (c := .count schema.name) (Clause.render_count hname) rfl
  have hst : s.statement k (fun t => .ok (.count t.name)) countShape =
      assemble s.clauses (.count schema.name) countShape := by
    rw [Session.statement, ht]
    simp only [Except.bind, hd]
  exact ⟨_, by rw [statement?, hst, ha]⟩

section Answers

variable {rows : List FetchedRow} {trailing closeError : Option Error}
  {r : Except Error (List (List Value))} {c : κ}

/-- A query given as text answers with what comes of collecting its rows. -/
theorem answer_of_queryRaw (he : e.registry.Sound) {sql : String} {params : List Value}
    (hq : (e.executor.query sql params e.state).1 = .ok c)
    (hc : Cursor.Alike c (ScriptedCursor.ofRows rows trailing closeError))
    (h : Collects rows trailing closeError r) : ((queryRaw sql params).run s e).1 = .rows r := by
  obtain ⟨outcome, values, closed, hends, rfl⟩ := h.ends
  have ha : (queryRaw (F := F) sql params).action s =
      .query ⟨sql, params⟩ collectRow [] fun outcome rows => .rows (outcome.map fun _ => rows) :=
    rfl
  exact answer_of_query he ha hq (hends.of_alike hc)

/-- A count answers with the count that the collected rows tell. -/
theorem answer_of_count (he : e.registry.Sound) {k : F.Key} {st : Statement}
    (hst : (count k).statement? s = some (.ok st))
    (hq : (e.executor.query st.sql st.params e.state).1 = .ok c)
    (hc : Cursor.Alike c (ScriptedCursor.ofRows rows trailing closeError))
    (h : Collects rows trailing closeError r) :
    ((count k).run s e).1 = .number (r.bind countOfRows) := by
  obtain ⟨outcome, values, closed, hends, rfl⟩ := h.ends
  have ha : (count k).action s = .query st collectRow [] fun outcome rows =>
      .number (outcome.bind fun _ => countOfRows rows) := by
    rw [action, hst]
    rfl
  rw [answer_of_query he ha hq (hends.of_alike hc)]
  cases outcome.bind fun _ => closed <;> rfl

end Answers

/-- How queries and counts rank what goes wrong. A query given as text answers with all rows of its
cursor, in order, just if each of them was scanned and nothing fails behind them; otherwise the
first row that cannot be scanned wins over the error behind the rows, and that over the one at the
closing. A count of a valid model has a statement unless a clause failed to render, and it fails in
the same cases with the same errors, whatever the first row holds. Otherwise it answers with the
integer in the first cell of the first row, and if there is none it blames that cell. -/
theorem query_and_count_rank_failures (he : e.registry.Sound) (s : Session) :
    (∀ (sql : String) (params : List Value) (c : κ) (rows : List FetchedRow)
      (trailing closeError : Option Error), (e.executor.query sql params e.state).1 = .ok c →
      Cursor.Alike c (ScriptedCursor.ofRows rows trailing closeError) →
      ∀ r, ((queryRaw sql params).run s e).1 = .rows r ↔ Collects rows trailing closeError r) ∧
    ∀ (k : F.Key) (schema : TableSchema (F.Rec k)),
      TableSchema.derive (F.model k) = .ok schema → s.pending = none →
      ∃ st, (count k).statement? s = some (.ok st) ∧
        ∀ (c : κ) (rows : List FetchedRow) (trailing closeError : Option Error),
          (e.executor.query st.sql st.params e.state).1 = .ok c →
          Cursor.Alike c (ScriptedCursor.ofRows rows trailing closeError) →
          ∀ r, ((count k).run s e).1 = .number r ↔
            (∃ err, Collects rows trailing closeError (.error err) ∧ r = .error err) ∨
            ∃ values, Collects rows trailing closeError (.ok values) ∧ Counts values r := by
  refine ⟨fun sql params c rows trailing closeError hq hc r => ?_, fun k schema hd hs => ?_⟩
  · obtain ⟨r₀, h⟩ := exists_collects rows trailing closeError
    constructor
    · intro hr
      cases (answer_of_queryRaw he hq hc h).symm.trans hr
      exact h
    · exact answer_of_queryRaw he hq hc
  · obtain ⟨st, hst⟩ := exists_statement_count hd hs
    refine ⟨st, hst, fun c rows trailing closeError hq hc r => ⟨fun hr => ?_, ?_⟩⟩
    · obtain ⟨r₀, h⟩ := exists_collects rows trailing closeError
      cases (answer_of_count he hst hq hc h).symm.trans hr
      cases r₀ with
      | error err => exact .inl ⟨err, h, rfl⟩
      | ok values => exact .inr ⟨values, h, countOfRows_eq_iff.1 rfl⟩
    · rintro (⟨err, h, rfl⟩ | ⟨values, h, hcounts⟩)
      · exact answer_of_count he hst hq hc h
      · rw [answer_of_count he hst hq hc h]
        exact congrArg Answer.number (countOfRows_eq_iff.2 hcounts)

/-- The first row has a good count and the second cannot be scanned, which is told in place of the
count and of all that fails later. Rows that can all be scanned need not hold a count. -/
theorem query_and_count_rank_failures_users :
    let lost : Error := .executor (.reported "lost")
    let engine (rows : List FetchedRow) (trailing closeError : Option Error) :
        Engine Declaration.userFamily Script ScriptedCursor :=
      { executor := Script.executor, dialect := .sqlite,
        state := ⟨[], [.ok (.ofRows rows trailing closeError)]⟩ }
    let s := (Session.fresh .sqlite none).filter "active" []
    ((count ()).run s (engine [.ok [.ofInt 7], .error ⟨"n", "no text"⟩] (some lost) none)).1 =
      .number (.error (.scan 2 "n" (.reported "no text"))) ∧
    ((queryRaw "VALUES (7)" []).run s (engine [.ok [.ofInt 7], .ok []] none (some lost))).1 =
      .rows (.error lost) ∧
    ((count ()).run s (engine [.ok [.text "7"], .ok []] none none)).1 =
      .number (.error (.scan 1 "COUNT(*)" (.conversion (.mismatch (.integer .i64) .text)))) ∧
    ((count ()).run s (engine [.ok [.ofInt 7, .null], .ok []] none none)).1 = .number (.ok 7) := by
  intro lost engine s
  have hd : TableSchema.derive Declaration.users.model = .ok Declaration.users.model.layout := rfl
  have hquery (rows : List FetchedRow) (trailing closeError : Option Error) :=
    (query_and_count_rank_failures (e := engine rows trailing closeError) Registry.sound_empty s).1
      "VALUES (7)" [] _ rows trailing closeError rfl (.refl _)
  have hcount (rows : List FetchedRow) (trailing closeError : Option Error) (r : Except Error Int)
      (h : (∃ err, Collects rows trailing closeError (.error err) ∧ r = .error err) ∨
        ∃ values, Collects rows trailing closeError (.ok values) ∧ Counts values r) :
      ((count ()).run s (engine rows trailing closeError)).1 = .number r := by
    obtain ⟨st, -, hst⟩ := (query_and_count_rank_failures (e := engine rows trailing closeError)
      Registry.sound_empty s).2 () _ hd rfl
    exact (hst _ rows trailing closeError rfl (.refl _) r).2 h
  refine ⟨?_, ?_, ?_, ?_⟩
  · exact hcount _ _ _ _ (.inl ⟨_, .row [[.ofInt 7]] ⟨"n", "no text"⟩ [] rfl, rfl⟩)
  · exact (hquery _ _ _ _).2 (.closing [[.ofInt 7], []] rfl rfl rfl)
  · exact hcount _ _ _ _
      (.inr ⟨[[.text "7"], []], .all _ rfl rfl rfl, .notNumber (.text "7") (by decide) _ _⟩)
  · exact hcount _ _ _ _
      (.inr ⟨[[.ofInt 7, .null], []], .all _ rfl rfl rfl, .number (.clamp .i64 7) _ _⟩)

end Operation

end RecordMapper
