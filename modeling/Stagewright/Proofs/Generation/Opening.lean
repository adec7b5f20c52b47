import Stagewright.Proofs.Code.Opening
import Stagewright.Proofs.Generation.Sources

/-!
How the lines of a stage begin. All variables in its code are its own, so the name that a line
begins with tells which of them the line is about.
-/

namespace Stagewright.Code

theorem Names.conn_text (cid : String) : (Names.conn ⟨cid⟩).text = "conn_" ++ cid := by
  simp [Local.text, Names.conn, Slot.stem]

theorem Names.url_text (cid : String) : (Names.url ⟨cid⟩).text = "url_" ++ cid := by
  simp [Local.text, Names.url, Slot.stem]

variable {view : View} {names : Names} {s : Statement}

theorem Statement.From.not_verbatim (from_ : s.From view names) (source : String) :
    s ≠ .verbatim source := by
  rintro rfl
  exact from_

/-- What a statement is about is a variable of its stage. -/
theorem Statement.From.subject (from_ : s.From view names) {x : Local}
    (about : s.subject? = some x) : x.cid = names.cid := by
  cases s with
  | bind y e =>
    obtain rfl := Option.some.inj about
    exact from_.1
  | add y e =>
    obtain rfl := Option.some.inj about
    exact from_.1
  | setAutocommit y flag =>
    obtain rfl := Option.some.inj about
    exact from_
  | effect y e =>
    obtain rfl := Option.some.inj about
    exact from_
  | executeBatch y =>
    obtain rfl := Option.some.inj about
    exact from_
  | _ => exact absurd about (by simp [Statement.subject?, Statement.pieces])

theorem Statement.From.publishes_iff (from_ : s.From view names) :
    "global_map[".toList <+: s.text.toList ↔ ∃ key x, s = .publish key x := by
  constructor
  · intro begins
    have named := Statement.keyword_of_begins from_.not_verbatim (by decide) begins
    cases s with
    | publish key x => exact ⟨key, x, rfl⟩
    | _ => exact absurd named (by simp [Statement.keyword?])
  · rintro ⟨key, x, rfl⟩
    exact Statement.begins_of_keyword rfl

section Beginning

variable {y : Local} (from_ : s.From view names) (own : y.cid = names.cid)
  (single : y.slot ≠ .driver ∧ y.slot ≠ .driverClass)

include from_ own single

theorem Statement.From.binds_iff :
    (y.text ++ " = ").toList <+: s.text.toList ↔ ∃ e, s = .bind y e := by
  constructor
  · exact Statement.binds_of_begins from_.not_verbatim
      (fun _ about => (from_.subject about).trans own.symm) single
  · rintro ⟨e, rfl⟩
    change _ <+: (y.text ++ " = " ++ e.text).toList
    simp only [String.toList_append]
    exact List.prefix_append _ _

theorem Statement.From.sets_iff :
    (y.text ++ ".autocommit = ").toList <+: s.text.toList ↔ ∃ flag, s = .setAutocommit y flag := by
  constructor
  · exact Statement.sets_of_begins from_.not_verbatim
      (fun _ about => (from_.subject about).trans own.symm) single
  · rintro ⟨flag, rfl⟩
    change _ <+: (y.text ++ ".autocommit = " ++ boolText flag).toList
    simp only [String.toList_append]
    exact List.prefix_append _ _

theorem Statement.From.reaches_of_begins (begins : (y.text ++ ".").toList <+: s.text.toList) :
    (∃ flag, s = .setAutocommit y flag) ∨ (∃ e, s = .effect y e) ∨ s = .executeBatch y :=
  Statement.reaches_of_begins from_.not_verbatim
    (fun _ about => (from_.subject about).trans own.symm) single begins

end Beginning

end Stagewright.Code
