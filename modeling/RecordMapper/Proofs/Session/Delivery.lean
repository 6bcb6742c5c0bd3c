import RecordMapper.Proofs.Executor.Alike
import RecordMapper.Proofs.Executor.Fetched
import RecordMapper.Proofs.Schema.Declared
import RecordMapper.Proofs.Schema.Row
import RecordMapper.Proofs.Session.Protocol
import RecordMapper.Proofs.Session.Statement

/-!
# What finding records delivers

Records are found one row at a time: every row before the first one with a fault is delivered as a
record of its own, and nothing is delivered of that row or of those behind it. Where no row has a
fault, all are delivered, and the outcome is told by the error behind the rows and by the closing.
-/

namespace RecordMapper

variable {F : Family}

namespace Session

variable {k : F.Key} {records : List (F.Rec k)}

/-- Rows that are delivered were scanned, and reading them appends their records in order. -/
theorem takeAll_delivered {ahead : List FetchedRow}
    (h : List.Forall₂ ((F.model k).layout.Delivers (F.model k).initial) ahead records) (row : Nat)
    (dest : List (F.Rec k)) :
    ∃ values, ahead = values.map .ok ∧
      Cursor.takeAll (readInto k) row values dest = .ok (dest ++ records) := by
  induction h generalizing row dest with
  | nil => exact ⟨[], rfl, congrArg Except.ok (List.append_nil dest).symm⟩
  | @cons fetched r ahead records hrow _ ih =>
    obtain ⟨values, rfl, hsets⟩ := hrow
    have hread := TableSchema.Delivers.readRow_eq ⟨values, rfl, hsets⟩ (row + 1)
    have htake : readInto k (row + 1) values dest = .ok (dest ++ [r]) := by
      rw [readInto, hread]
      rfl
    obtain ⟨rest, rfl, hrest⟩ := ih (row + 1) (dest ++ [r])
    refine ⟨values :: rest, rfl, ?_⟩
    rw [Cursor.takeAll, htake]
    rw [List.append_assoc, List.singleton_append] at hrest
    exact hrest

/-- A row with a fault is not taken, whatever was found before it. -/
theorem readInto_of_rowFault {row : FetchedRow} {column : String} {fault : ScanFault}
    (h : (F.model k).layout.RowFault (F.model k).initial row column fault) (n : Nat)
    (found : List (F.Rec k)) :
    (row.scanned n).bind (readInto k n · found) = .error (.scan n column fault) := by
  cases row with
  | error f =>
    cases h
    rfl
  | ok values =>
    have hread := h.readRow_eq n
    change readInto k n values found = _
    rw [readInto, hread]
    rfl

section Reading

variable {ahead : List FetchedRow}
  (h : List.Forall₂ ((F.model k).layout.Delivers (F.model k).initial) ahead records)
  (dest : List (F.Rec k))
include h

/-- Behind rows that are delivered the reader and the cursor have counted to the same number. -/
theorem consume_delivered (behind : List FetchedRow) (trailing closeError : Option Error) :
    ∃ (c' : ScriptedCursor) (calls : List Call), c'.buffer.position = ahead.length ∧
      Cursor.consume (readInto k) 0 dest (.ofRows (ahead ++ behind) trailing closeError) =
        (Cursor.consume (readInto k) ahead.length (dest ++ records) c').after calls := by
  obtain ⟨values, rfl, htake⟩ := takeAll_delivered h 0 dest
  have hstands := ScriptedCursor.stands_ofRows (values.map .ok ++ behind) trailing closeError
  obtain ⟨c', calls, hlast, hconsume⟩ := hstands.consume_ahead rfl htake
  rw [Nat.zero_add] at hlast hconsume
  rw [List.length_map]
  refine ⟨c', calls, ?_, hconsume⟩
  rw [hlast.buffer.position, List.length_append, List.length_map]
  exact Nat.min_eq_left (Nat.le_add_right _ _)

theorem ends_of_delivered (trailing closeError : Option Error) :
    (Cursor.consume (readInto k) 0 dest (ScriptedCursor.ofRows ahead trailing closeError)).Ends
      (trailing.elim (.ok ()) .error) (dest ++ records) (closeError.elim (.ok ()) .error) := by
  obtain ⟨values, rfl, htake⟩ := takeAll_delivered h 0 dest
  exact ScriptedCursor.consume_all htake trailing closeError

theorem ends_of_rowFault {row : FetchedRow} {column : String} {fault : ScanFault}
    (hfault : (F.model k).layout.RowFault (F.model k).initial row column fault)
    (behind : List FetchedRow) (trailing closeError : Option Error) :
    (Cursor.consume (readInto k) 0 dest
      (ScriptedCursor.ofRows (ahead ++ row :: behind) trailing closeError)).Ends
      (.error (.scan (ahead.length + 1) column fault)) (dest ++ records)
      (closeError.elim (.ok ()) .error) := by
  obtain ⟨values, rfl, htake⟩ := takeAll_delivered h 0 dest
  have hf := readInto_of_rowFault hfault (values.length + 1) (dest ++ records)
  rw [List.length_map]
  exact ScriptedCursor.consume_first_failing htake hf behind trailing closeError

end Reading

end Session

namespace Operation

open Session

variable {σ κ : Type} [Cursor κ] {e : Engine F σ κ}

/-- What finding records delivers. After setter calls that all render, whatever was done before, the
statement is issued. Where its rows were fetched up front, the reader and the cursor count alike as
far as no row has a fault. The rows before the first one with a fault are delivered behind what was
in the destination, each as a new record whose mapped fields are set from that row alone, and the
error names the row by its number and the column that is blamed. Where no row has a fault, all are
delivered, and the error behind the rows wins over the one at the closing. -/
theorem find_delivers (d : Dialect) (hint? : Option String) (he : e.registry.Sound)
    (past : List (Operation F)) (hall : Clause.AllRender d (collected past)) {k : F.Key}
    {schema : TableSchema (F.Rec k)} (hd : TableSchema.derive (F.model k) = .ok schema)
    (dest : List (F.Rec k)) :
    let (_, s, e) := runAll past (.fresh d hint?) e
    let initial := (F.model k).initial
    let answer := ((find k dest).run s e).1
    ∃ st, (find k dest).statement? s = some (.ok st) ∧
      ∀ (c : κ) (rows : List FetchedRow) (trailing closeError : Option Error),
        (e.executor.query st.sql st.params e.state).1 = .ok c →
        Cursor.Alike c (ScriptedCursor.ofRows rows trailing closeError) →
        (∀ ahead behind, rows = ahead ++ behind →
          (∀ a ∈ ahead, ∀ column fault, ¬ schema.RowFault initial a column fault) →
          ∃ (records : List (F.Rec k)) (c' : ScriptedCursor) (calls : List Call),
            List.Forall₂ (schema.Delivers initial) ahead records ∧
            c'.buffer.position = ahead.length ∧
            Cursor.consume (readInto k) 0 dest (.ofRows rows trailing closeError) =
              (Cursor.consume (readInto k) ahead.length (dest ++ records) c').after calls) ∧
        (∀ ahead row behind column fault, rows = ahead ++ row :: behind →
          (∀ a ∈ ahead, ∀ column fault, ¬ schema.RowFault initial a column fault) →
          schema.RowFault initial row column fault →
          ∃ records, List.Forall₂ (schema.Delivers initial) ahead records ∧
            answer = .found k (.error (.scan (ahead.length + 1) column fault))
              (dest ++ records)) ∧
        ((∀ row ∈ rows, ∀ column fault, ¬ schema.RowFault initial row column fault) →
          ∃ records, List.Forall₂ (schema.Delivers initial) rows records ∧
            answer = .found k ((trailing.or closeError).elim (.ok ()) .error)
              (dest ++ records)) := by
  have hs := TableSchema.wellFormed_of_derive hd
  have hselect := Clause.render_select (d := d) hs.name hs.columns_ne_nil hs.columns
  have hsession := runAll_session past d hint? e
  generalize collected past = cs at hall hsession
  have hst := statement_of_rendered (o := find k dest) hint? rfl hd rfl hselect hall
  rw [← hsession] at hst
  have hsound := (runAll_issues he past (.fresh d hint?)).sound
  obtain rfl := Model.layout_of_derive hd
  dsimp only
  generalize (runAll past (.fresh d hint?) e).2.2 = e₁ at hsound
  generalize (runAll past (.fresh d hint?) e).2.1 = s₁ at hst
  generalize Statement.ofFragments _ = st at hst
  have hselected : s₁.selectStatement k = .ok st := Option.some.inj hst
  refine ⟨st, hst, fun c rows trailing closeError hq hc => ⟨?_, ?_, ?_⟩⟩
  · rintro ahead behind rfl hahead
    obtain ⟨records, hrecords⟩ := TableSchema.exists_delivered hahead
    obtain ⟨c', calls, hposition, hconsume⟩ :=
      consume_delivered hrecords dest behind trailing closeError
    exact ⟨records, c', calls, hrecords, hposition, hconsume⟩
  · rintro ahead row behind column fault rfl hahead hfault
    obtain ⟨records, hrecords⟩ := TableSchema.exists_delivered hahead
    have hends := ends_of_rowFault hrecords dest hfault behind trailing closeError
    exact ⟨records, hrecords, answer_of_find hsound hselected hq (hends.of_alike hc)⟩
  · intro hrows
    obtain ⟨records, hrecords⟩ := TableSchema.exists_delivered hrows
    have hends := ends_of_delivered hrecords dest trailing closeError
    refine ⟨records, hrecords, (answer_of_find hsound hselected hq (hends.of_alike hc)).trans ?_⟩
    cases trailing <;> rfl

/-- Of three users the second has no name and the third no column at all; the cursor cannot be
closed either. -/
theorem find_delivers_users :
    let schema := Declaration.users.model.layout
    let initial := Declaration.users.model.initial
    let first : FetchedRow := .ok [.ofInt 1, .text "Ann", .bool true, .null]
    let cursor : ScriptedCursor :=
      .ofRows [first, .ok [.ofInt 2, .null, .bool true, .null], .ok []] none
        (some (.executor (.reported "lost")))
    let e : Engine Declaration.userFamily Script ScriptedCursor :=
      { executor := Script.executor, dialect := .sqlite, state := ⟨[], [.ok cursor]⟩ }
    let (_, s, e) := runAll [.filter "active" []] (.fresh .sqlite none) e
    ∃ records, List.Forall₂ (schema.Delivers initial) [first] records ∧
      ((find () [Declaration.ann]).run s e).1 =
        .found () (.error (.scan 2 "full_name" (.conversion (.mismatch .text .null))))
          ([Declaration.ann] ++ records) := by
  intro schema initial first cursor e
  have hd : TableSchema.derive Declaration.users.model = .ok schema := rfl
  have hall : Clause.AllRender .sqlite
      (collected (F := Declaration.userFamily) [.filter "active" []]) :=
    List.forall_mem_singleton.2 ⟨⟨"WHERE active", []⟩, rfl⟩
  have hfirst : ∃ r, schema.Delivers initial first r :=
    ⟨_, _, rfl, .next rfl (.next rfl (.next rfl (.next rfl (.done _))))⟩
  obtain ⟨r, hr⟩ := hfirst
  obtain ⟨st, -, hdelivers⟩ := find_delivers .sqlite none (e := e) Registry.sound_empty
    [.filter "active" []] hall (k := ()) hd [Declaration.ann]
  obtain ⟨-, hfault, -⟩ := hdelivers cursor _ _ _ rfl (Cursor.Alike.refl cursor)
  exact hfault [first] _ _ "full_name" (.conversion (.mismatch .text .null)) rfl
    (List.forall_mem_singleton.2 hr.not_rowFault) (.rejected rfl (.later rfl (.here _ _ rfl)))

end Operation

end RecordMapper
