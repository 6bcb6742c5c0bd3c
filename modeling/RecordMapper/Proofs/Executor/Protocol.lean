import RecordMapper.Proofs.Executor.Reading

/-!
# The protocol of cursors

The calls that a query makes on its cursor, whatever the cursor answers. A `Course` is what can
happen: some rows are advanced to and scanned one after another, the reading ends in one of four
ways, and the cursor is closed. `Cursor.consume_course` shows that every reading is such a course,
that the calls are the ones that the cursor answered, and that it ends no earlier and no later than
the answers tell. `Engine.fold_course` adds the opening of the cursor and its closing.
-/

namespace RecordMapper

namespace Cursor

variable {α κ : Type} [Cursor κ]

/-- The calls are made on the cursor one after another and stand with the answers that it gave;
the second cursor is left behind. -/
inductive Answers : κ → List Call → κ → Prop
  | done (c : κ) : Answers c [] c
  | advance {c c' : κ} {calls : List Call} :
    Answers (advance c).2 calls c' → Answers c (.advance (advance c).1 :: calls) c'
  | scan {c c' : κ} {calls : List Call} :
    Answers (scan c).2 calls c' → Answers c (.scan (scan c).1 :: calls) c'
  | close {c c' : κ} {calls : List Call} :
    Answers (close c).2 calls c' → Answers c (.close (close c).1 :: calls) c'

theorem Answers.append {c₁ c₂ c₃ : κ} {calls calls' : List Call} (h : Answers c₁ calls c₂)
    (h' : Answers c₂ calls' c₃) : Answers c₁ (calls ++ calls') c₃ := by
  induction h with
  | done c => exact h'
  | advance _ ih => exact .advance (ih h')
  | scan _ ih => exact .scan (ih h')
  | close _ ih => exact .close (ih h')

theorem Answers.of_advance {c c₁ c' : κ} {answer : Except Error Bool} {calls : List Call}
    (ha : Cursor.advance c = (answer, c₁)) (h : Answers c₁ calls c') :
    Answers c (.advance answer :: calls) c' := by
  have hanswer : (Cursor.advance c).1 = answer := congrArg Prod.fst ha
  have hnext : (Cursor.advance c).2 = c₁ := congrArg Prod.snd ha
  rw [← hanswer]
  exact .advance (hnext ▸ h)

theorem Answers.of_scan {c c₁ c' : κ} {answer : Except Error (List Value)} {calls : List Call}
    (hs : Cursor.scan c = (answer, c₁)) (h : Answers c₁ calls c') :
    Answers c (.scan answer :: calls) c' := by
  have hanswer : (Cursor.scan c).1 = answer := congrArg Prod.fst hs
  have hnext : (Cursor.scan c).2 = c₁ := congrArg Prod.snd hs
  rw [← hanswer]
  exact .scan (hnext ▸ h)

theorem Answers.advance_inv {c c' : κ} {answer : Except Error Bool} {calls : List Call}
    (h : Answers c (.advance answer :: calls) c') :
    (Cursor.advance c).1 = answer ∧ Answers (Cursor.advance c).2 calls c' := by
  cases h with
  | advance h => exact ⟨rfl, h⟩

theorem Answers.close_inv {c c' : κ} {answer : Except Error Unit} {calls : List Call}
    (h : Answers c (.close answer :: calls) c') :
    (Cursor.close c).1 = answer ∧ Answers (Cursor.close c).2 calls c' := by
  cases h with
  | close h => exact ⟨rfl, h⟩

/-- How a reading ends. -/
inductive Ending where
  /-- There are no more rows. -/
  | exhausted
  /-- The cursor does not come to another row. -/
  | stuck (e : Error)
  /-- The cursor comes to a row that cannot be scanned. -/
  | unreadable (e : Error)
  /-- A row was scanned and is refused. -/
  | refused (values : List Value) (e : Error)

/-- The calls with which a reading ends. -/
def Ending.calls : Ending → List Call
  | exhausted => [.advance (.ok false)]
  | stuck e => [.advance (.error e)]
  | unreadable e => [.advance (.ok true), .scan (.error e)]
  | refused values _ => [.advance (.ok true), .scan (.ok values)]

def Ending.outcome : Ending → Except Error Unit
  | exhausted => .ok ()
  | stuck e | unreadable e | refused _ e => .error e

/-- The calls that read a row. -/
def rowCalls (values : List Value) : List Call :=
  [.advance (.ok true), .scan (.ok values)]

/-- What happens to a cursor from its opening to its closing: the rows that are taken from it, how
the reading ends, and what comes of the closing. -/
structure Course where
  rows : List (List Value)
  ending : Ending
  closed : Except Error Unit

namespace Course

def calls (x : Course) : List Call :=
  x.rows.flatMap rowCalls ++ x.ending.calls ++ [.close x.closed]

/-- A failure of the reading wins over one of the closing. -/
def outcome (x : Course) : Except Error Unit :=
  x.ending.outcome.bind fun _ => x.closed

/-- The rows that are taken are those before the first that is refused; rows are counted from
one. -/
structure Heeds (refusal? : Nat → List Value → Option Error) (x : Course) : Prop where
  taken : ∀ i (h : i < x.rows.length), refusal? (i + 1) x.rows[i] = none
  refused : ∀ values e, x.ending = .refused values e →
    refusal? (x.rows.length + 1) values = some e

end Course

/-- A reading takes rows until its ending, which is the first that the answers of the cursor and
the refusals of `take` make of it. -/
theorem consume_course (take : Nat → List Value → α → Except Error α) (row : Nat) (acc : α)
    (c : κ) :
    let reading := consume take row acc c
    ∃ (rows : List (List Value)) (ending : Ending),
      reading.calls = rows.flatMap rowCalls ++ ending.calls ∧
      reading.outcome = ending.outcome ∧
      Answers c reading.calls reading.cursor ∧
      takeAll take row rows acc = .ok reading.result ∧
      ∀ values e, ending = .refused values e →
        take (row + rows.length + 1) values reading.result = .error e := by
  induction row, acc, c using consume.induct (κ := κ) take with
  | case1 row acc c e c₁ h =>
    rw [consume_of_advance_error h]
    refine ⟨[], .stuck e, rfl, rfl, .of_advance h (.done c₁), rfl, ?_⟩
    rintro _ _ ⟨⟩
  | case2 row acc c c₁ h =>
    rw [consume_of_exhausted h]
    refine ⟨[], .exhausted, rfl, rfl, .of_advance h (.done c₁), rfl, ?_⟩
    rintro _ _ ⟨⟩
  | case3 row acc c c₁ h e c₂ hs =>
    rw [consume_of_scan_error h hs]
    refine ⟨[], .unreadable e, rfl, rfl, .of_advance h (.of_scan hs (.done c₂)), rfl, ?_⟩
    rintro _ _ ⟨⟩
  | case4 row acc c c₁ h values c₂ hs e ht =>
    rw [consume_of_refused h hs ht]
    refine ⟨[], .refused values e, rfl, rfl, .of_advance h (.of_scan hs (.done c₂)), rfl, ?_⟩
    rintro values' e' ⟨⟩
    exact ht
  | case5 row acc c c₁ h values c₂ hs acc' ht ih =>
    obtain ⟨rows, ending, hcalls, ho, hans, htake, href⟩ := ih
    rw [consume_of_taken h hs ht]
    refine ⟨values :: rows, ending, ?_, ho, .of_advance h (.of_scan hs hans), ?_, ?_⟩
    · simp only [Reading.after, hcalls, rowCalls, List.flatMap_cons, List.append_assoc]
    · rw [takeAll, ht]
      exact htake
    · intro values' e' he
      have hlast := href values' e' he
      rw [List.length_cons, ← Nat.add_assoc, Nat.add_right_comm row]
      exact hlast

/-- Where `take` refuses rows by their number and their values alone, all rows that were taken are
rows that it does not refuse. -/
theorem not_refused_of_takeAll {take : Nat → List Value → α → Except Error α}
    {refusal? : Nat → List Value → Option Error}
    (hr : ∀ row values acc e, refusal? row values = some e → take row values acc = .error e)
    {row : Nat} {rows : List (List Value)} {acc acc' : α}
    (h : takeAll take row rows acc = .ok acc') :
    ∀ i (hi : i < rows.length), refusal? (row + i + 1) rows[i] = none := by
  induction rows generalizing row acc with
  | nil => exact nofun
  | cons values rows ih =>
    rw [takeAll] at h
    cases htake : take (row + 1) values acc with
    | error e =>
      rw [htake] at h
      cases h
    | ok acc₁ =>
      rw [htake] at h
      intro i hi
      cases i with
      | zero =>
        cases href : refusal? (row + 1) values with
        | none => exact href
        | some e =>
          rw [hr _ _ acc e href] at htake
          cases htake
      | succ i =>
        have hnext := ih h i (Nat.lt_of_succ_lt_succ hi)
        rw [Nat.add_right_comm row 1 i] at hnext
        exact hnext

end Cursor

/-! ## The calls of a query -/

namespace Event

@[simp]
theorem calls_append (es fs : List Event) : calls (es ++ fs) = calls es ++ calls fs :=
  List.filterMap_append

@[simp]
theorem calls_logged (ls : List LogEntry) : calls (ls.map .logged) = [] := by
  induction ls with
  | nil => rfl
  | cons l ls ih => exact ih

@[simp]
theorem calls_called (cs : List Call) : calls (cs.map .called) = cs := by
  induction cs with
  | nil => rfl
  | cons c cs ih => exact congrArg (c :: ·) ih

end Event

namespace Engine

variable {F : Family} {α σ κ : Type} {e : Engine F σ κ}

/-- What is logged when a cursor is closed: a failure that the failure of the reading hides. -/
def closingNotes (hint : String) : (outcome closed : Except Error Unit) → List LogEntry
  | .error _, .error closeError => [.closeFailed hint closeError]
  | _, _ => []

theorem record_record (es fs : List Event) : (e.record es).record fs = e.record (es ++ fs) := by
  simp only [record, List.append_assoc]

theorem finish_eq [Cursor κ] (hint : String) (c : κ) (outcome : Except Error Unit) :
    e.finish hint c outcome =
      (outcome.bind fun _ => (Cursor.close c).1,
        e.record (.called (.close (Cursor.close c).1) ::
          (closingNotes hint outcome (Cursor.close c).1).map .logged)) := by
  unfold finish
  cases outcome with
  | ok u => rfl
  | error err =>
    cases (Cursor.close c).1 with
    | ok u => rfl
    | error closeError => simp only [record_record]; rfl

/-- What is recorded of a statement that returns no rows. -/
theorem exec_events (e : Engine F σ κ) (hint sql : String) (params : List Value) :
    (e.exec hint sql params).2.events = e.events ++
      [.logged (.exec hint sql params.length),
        .called (.exec sql params (e.executor.exec sql params e.state).1)] := by
  simp only [exec, record, List.append_assoc]
  rfl

variable [Cursor κ] {sql : String} {params : List Value}

/-- What is recorded of a query that fails. -/
theorem fold_events_of_error {err : Error}
    (hq : (e.executor.query sql params e.state).1 = .error err) (hint : String)
    (take : Nat → List Value → α → Except Error α) (acc : α) :
    (e.fold hint sql params take acc).1.2.events =
      e.events ++ [.logged (.query hint sql params.length),
        .called (.query sql params (.error err))] := by
  have h : e.query hint sql params = (.error err, (e.query hint sql params).2) := Prod.ext hq rfl
  rw [fold_of_error h]
  simp only [query, record, hq, List.append_assoc]
  rfl

/-- What is recorded of a query whose cursor is read and closed. -/
theorem fold_events_of_ok {c : κ} (hq : (e.executor.query sql params e.state).1 = .ok c)
    (hint : String) (take : Nat → List Value → α → Except Error α) (acc : α) :
    let reading := Cursor.consume take 0 acc c
    let closed := (Cursor.close reading.cursor).1
    (e.fold hint sql params take acc).1.2.events =
      e.events ++ ((.query hint sql params.length :: e.executor.notes c).map .logged ++
        (.query sql params (.ok ()) :: (reading.calls ++ [.close closed])).map .called ++
        (closingNotes hint reading.outcome closed).map .logged) := by
  have h : e.query hint sql params = (.ok c, (e.query hint sql params).2) := Prod.ext hq rfl
  dsimp only
  rw [fold_of_ok h]
  simp only [finish_eq, query, record, hq, Except.map, Except.toOption, Option.getD_some,
    List.map_cons, List.map_append, List.map_nil, List.cons_append, List.nil_append,
    List.append_assoc]

/-- What is recorded of a query that opens a cursor and takes it on a course: the entry of the
statement, the notes of the executor on the cursor, the calls, and a failure of the closing that the
failure of the reading hides. -/
def courseEvents (hint sql : String) (params : List Value) (notes : List LogEntry)
    (x : Cursor.Course) : List Event :=
  (.query hint sql params.length :: notes).map .logged ++
    (.query sql params (.ok ()) :: x.calls).map .called ++
    (closingNotes hint x.ending.outcome x.closed).map .logged

@[simp]
theorem calls_courseEvents (hint : String) (notes : List LogEntry) (x : Cursor.Course) :
    Event.calls (courseEvents hint sql params notes x) = .query sql params (.ok ()) :: x.calls := by
  simp only [courseEvents, Event.calls_append, Event.calls_logged, Event.calls_called,
    List.nil_append, List.append_nil]

/-- A query that opens a cursor takes it on its course and ends as the course does. -/
theorem fold_course {c : κ} (hq : (e.executor.query sql params e.state).1 = .ok c) (hint : String)
    (take : Nat → List Value → α → Except Error α) (acc : α) :
    ∃ (x : Cursor.Course) (c' : κ),
      (e.fold hint sql params take acc).1.2.events =
        e.events ++ courseEvents hint sql params (e.executor.notes c) x ∧
      Cursor.Answers c x.calls c' ∧
      (e.fold hint sql params take acc).1.1 = x.outcome ∧
      Cursor.takeAll take 0 x.rows acc = .ok (e.fold hint sql params take acc).2 ∧
      ∀ values err, x.ending = .refused values err →
        take (x.rows.length + 1) values (e.fold hint sql params take acc).2 = .error err := by
  obtain ⟨rows, ending, hcalls, ho, hans, htake, href⟩ := Cursor.consume_course take 0 acc c
  have hevents := fold_events_of_ok hq hint take acc
  have hclose := hans.append (.close (.done _))
  have h : e.query hint sql params = (.ok c, (e.query hint sql params).2) := Prod.ext hq rfl
  have hfold := fold_of_ok h take acc
  dsimp only at hevents hfold
  rw [hcalls, ho] at hevents
  rw [hcalls] at hclose
  refine ⟨⟨rows, ending, _⟩, _, hevents, hclose, ?_, ?_, ?_⟩
  · rw [hfold, finish_eq, ho]
    rfl
  · rw [hfold]
    exact htake
  · intro values err hend
    rw [hfold, ← Nat.zero_add rows.length]
    exact href values err hend

end Engine

end RecordMapper
