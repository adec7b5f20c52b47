import Mathlib.Data.List.Basic
import Stagewright.Lifecycle
import Stagewright.Proofs.Code.Position

/-!
Messages that come in pairs. What happens to a connection stands between a message that it is going
to happen and one that it has, and neither of the two stands anywhere else. Labels come from the
configuration and may look like anything, so messages are told apart by how they begin and end.
-/

namespace Stagewright.Lifecycle

open Code

/-- What happens to a connection. -/
inductive Event where
  | connect
  | effect (e : Effect)
deriving DecidableEq

/-- The event that a statement brings about. -/
def event? : Statement → Option Event
  | .bind _ (.connect _ _ _ _) => some .connect
  | .effect _ e => some (.effect e)
  | _ => none

/-- How a message is put: always in the same words, or in words around a label. -/
inductive Wording where
  | fixed (words : String)
  | around (front back : String)

namespace Wording

def text (label : String) : Wording → String
  | .fixed words => words
  | .around front back => front ++ label ++ back

def front : Wording → String
  | .fixed words => words
  | .around front _ => front

def back : Wording → String
  | .fixed words => words
  | .around _ back => back

theorem front_prefix (wording : Wording) (label : String) :
    wording.front.toList <+: (wording.text label).toList := by
  cases wording with
  | fixed words => exact List.prefix_rfl
  | around front back => exact ⟨label.toList ++ back.toList, by simp [Wording.front, text]⟩

theorem back_suffix (wording : Wording) (label : String) :
    wording.back.toList <:+ (wording.text label).toList := by
  cases wording with
  | fixed words => exact List.suffix_rfl
  | around front back => exact ⟨front.toList ++ label.toList, by simp [Wording.back, text]⟩

/-- Either the beginnings of two wordings exclude each other, or their ends do. -/
def isApart (a b : Wording) : Bool :=
  let nested (under : List Char → List Char → Bool) (s t : String) : Bool :=
    under s.toList t.toList || under t.toList s.toList
  !nested List.isPrefixOf a.front b.front || !nested List.isSuffixOf a.back b.back

theorem text_ne_of_isApart {a b : Wording} (apart : a.isApart b = true) (label other : String) :
    a.text label ≠ b.text other := by
  intro same
  have fronts := List.prefix_or_prefix_of_prefix (a.front_prefix label)
    (same ▸ b.front_prefix other)
  have backs := List.suffix_or_suffix_of_suffix (a.back_suffix label) (same ▸ b.back_suffix other)
  simp only [← List.isPrefixOf_iff_prefix, ← List.isSuffixOf_iff_suffix] at fronts backs
  simp only [isApart, Bool.or_eq_true, Bool.not_eq_true', Bool.or_eq_false_iff] at apart
  rcases apart with ⟨front, front'⟩ | ⟨back, back'⟩
  · simp [front, front'] at fronts
  · simp [back, back'] at backs

end Wording

/-- The place of a message: before an event, or after it. -/
inductive Mark where
  | opening (event : Event)
  | closing (event : Event)
deriving DecidableEq

namespace Mark

def all : List Mark :=
  [.opening .connect, .closing .connect, .opening (.effect .commit), .closing (.effect .commit),
    .opening (.effect .rollback), .closing (.effect .rollback), .opening (.effect .close),
    .closing (.effect .close)]

theorem mem_all (mark : Mark) : mark ∈ all := by
  rcases mark with event | event <;> rcases event with _ | e
  · decide
  · cases e <;> decide
  · decide
  · cases e <;> decide

/-- How the message can be put. -/
def wordings : Mark → List Wording
  | .opening .connect => [.fixed "Connection attempt to '%s'.",
      .fixed "Connection attempt to '%s' with the username '%s'."]
  | .closing .connect => [.fixed "Connection to '%s' has succeeded."]
  | .opening (.effect .commit) => [.around "Connection " "starting to commit.",
      .around "Connection " "starting to commit %s records."]
  | .closing (.effect .commit) => [.around "Connection " "commit has succeeded."]
  | .opening (.effect .rollback) => [.around "Connection " "starting to rollback."]
  | .closing (.effect .rollback) => [.around "Connection " "rollback has succeeded."]
  | .opening (.effect .close) => [.around "Closing the connection " "to the database."]
  | .closing (.effect .close) => [.around "Connection " "to the database closed."]

theorem wordings_apart : ∀ a ∈ all, ∀ b ∈ all, a ≠ b → ∀ s ∈ a.wordings, ∀ t ∈ b.wordings,
    s.isApart t = true := by
  decide +kernel

/-- No text can stand in two places, whatever the labels are. -/
theorem eq_of_text {a b : Mark} {s t : Wording} (first : s ∈ a.wordings) (second : t ∈ b.wordings)
    {label other : String} (same : s.text label = t.text other) : a = b := by
  by_contra different
  have apart := wordings_apart a a.mem_all b b.mem_all different s first t second
  exact Wording.text_ne_of_isApart apart label other same

end Mark

/-- The line is a message for a place of stage `cid`. -/
def IsMark (cid label : String) (mark : Mark) (line : Line) : Prop :=
  ∃ level args, ∃ wording ∈ mark.wordings,
    line.statement = .log level (cid ++ " - " ++ wording.text label) args

theorem IsMark.unique {cid label other : String} {a b : Mark} {line : Line}
    (first : IsMark cid label a line) (second : IsMark cid other b line) : a = b := by
  obtain ⟨level, args, s, amongA, written⟩ := first
  obtain ⟨level', args', t, amongB, written'⟩ := second
  obtain ⟨-, message, -⟩ := Statement.log.inj (written.symm.trans written')
  exact Mark.eq_of_text amongA amongB ((String.append_right_inj _).mp message)

theorem IsMark.event?_eq_none {cid label : String} {mark : Mark} {line : Line}
    (marked : IsMark cid label mark line) : event? line.statement = none := by
  obtain ⟨level, args, wording, -, written⟩ := marked
  rw [written]
  rfl

/-- Where a line stands between the line before it and the one after it: an event between its two
messages, which name the connection alike, and every message next to its event. -/
structure Placed (cid label : String) (last? : Option Line) (line : Line) (next? : Option Line) :
    Prop where
  surrounded : ∀ event, event? line.statement = some event →
    (∃ last, last? = some last ∧ last.depth = line.depth ∧ IsMark cid label (.opening event) last) ∧
      ∃ next, next? = some next ∧ next.depth = line.depth ∧ IsMark cid label (.closing event) next
  opens : ∀ event other, IsMark cid other (.opening event) line →
    ∃ next, next? = some next ∧ next.depth = line.depth ∧ event? next.statement = some event
  closes : ∀ event other, IsMark cid other (.closing event) line →
    ∃ last, last? = some last ∧ last.depth = line.depth ∧ event? last.statement = some event

/-- All events of the code stand between their messages, and no message stands elsewhere. -/
def Bracketed (cid label : String) (code : Code) : Prop :=
  ∀ before line after, code = before ++ line :: after →
    Placed cid label before.getLast? line after.head?

section Closure

variable {cid label : String}

theorem Placed.mono {last? last'? next? next'? : Option Line} {line : Line}
    (placed : Placed cid label last? line next?) (before : ∀ x, last? = some x → last'? = some x)
    (after : ∀ x, next? = some x → next'? = some x) : Placed cid label last'? line next'? where
  surrounded event happens := by
    obtain ⟨⟨last, atLast, opens⟩, next, atNext, closes⟩ := placed.surrounded event happens
    exact ⟨⟨last, before last atLast, opens⟩, next, after next atNext, closes⟩
  opens event other marked := by
    obtain ⟨next, atNext, happens⟩ := placed.opens event other marked
    exact ⟨next, after next atNext, happens⟩
  closes event other marked := by
    obtain ⟨last, atLast, happens⟩ := placed.closes event other marked
    exact ⟨last, before last atLast, happens⟩

theorem IsMark.deeper {mark : Mark} {line : Line} (marked : IsMark cid label mark line)
    (depth : Nat) : IsMark cid label mark (line.deeper depth) := marked

theorem Placed.deeper {last? next? : Option Line} {line : Line}
    (placed : Placed cid label last? line next?) (depth : Nat) :
    Placed cid label (last?.map (Line.deeper depth)) (line.deeper depth)
      (next?.map (Line.deeper depth)) where
  surrounded event happens := by
    obtain ⟨⟨last, rfl, level, opens⟩, next, rfl, level', closes⟩ := placed.surrounded event happens
    exact ⟨⟨_, rfl, congrArg (depth + ·) level, opens.deeper depth⟩, _, rfl,
      congrArg (depth + ·) level', closes.deeper depth⟩
  opens event other marked := by
    obtain ⟨next, rfl, level, happens⟩ := placed.opens event other marked
    exact ⟨_, rfl, congrArg (depth + ·) level, happens⟩
  closes event other marked := by
    obtain ⟨last, rfl, level, happens⟩ := placed.closes event other marked
    exact ⟨_, rfl, congrArg (depth + ·) level, happens⟩

namespace Bracketed

theorem append {a b : Code} (first : Bracketed cid label a) (second : Bracketed cid label b) :
    Bracketed cid label (a ++ b) := by
  intro before line after split
  rcases List.append_eq_append_iff.mp split with ⟨rest, atBefore, atB⟩ | ⟨rest, atA, atLine⟩
  · refine (second rest line after atB).mono (fun x atLast => ?_) fun x atNext => atNext
    rw [atBefore, List.getLast?_append, atLast]
    rfl
  · cases rest with
    | nil =>
      refine (second [] line after atLine.symm).mono (fun x atLast => ?_) fun x atNext => atNext
      exact absurd atLast (by simp)
    | cons other rest =>
      obtain ⟨rfl, rfl⟩ : line = other ∧ after = rest ++ b := List.cons.inj atLine
      refine (first before line rest atA).mono (fun x atLast => atLast) fun x atNext => ?_
      rw [List.head?_append, atNext]
      rfl

theorem deeper {code : Code} (each : Bracketed cid label code) (depth : Nat) :
    Bracketed cid label (code.deeper depth) := by
  intro before line after split
  obtain ⟨front, back, same, atBefore, atRest⟩ := List.map_eq_append_iff.mp split
  obtain ⟨source, rest, sameBack, atLine, atAfter⟩ := List.map_eq_cons_iff.mp atRest
  subst sameBack atBefore atLine atAfter
  rw [List.getLast?_map, List.head?_map]
  exact (each front source rest same).deeper depth

end Bracketed

/-- The statement is neither an event nor a message before or after one. -/
def IsPlain (cid : String) (s : Statement) : Prop :=
  event? s = none ∧ ∀ mark label line, line.statement = s → ¬IsMark cid label mark line

theorem Bracketed.of_plain {code : Code} (plain : Each (IsPlain cid) code) :
    Bracketed cid label code := by
  intro before line after split
  obtain ⟨eventless, unmarked⟩ := plain line (by simp [split])
  refine ⟨fun event happens => ?_, fun event other marked => ?_, fun event other marked => ?_⟩
  · rw [eventless] at happens
    exact absurd happens (by simp)
  · exact absurd marked (unmarked _ _ _ rfl)
  · exact absurd marked (unmarked _ _ _ rfl)

theorem Bracketed.nil : Bracketed cid label [] := by
  intro before line after split
  exact absurd split (by simp)

theorem Bracketed.flatMap {α : Type} {steps : List α} {code : α → Code}
    (each : ∀ step ∈ steps, Bracketed cid label (code step)) :
    Bracketed cid label (steps.flatMap code) := by
  induction steps with
  | nil => exact .nil
  | cons step rest ih =>
    exact .append (each step List.mem_cons_self)
      (ih fun later member => each later (List.mem_cons_of_mem _ member))

theorem Bracketed.block {header : Statement} {body : Code} (plain : IsPlain cid header)
    (inside : Bracketed cid label body) : Bracketed cid label (Code.block header body) := by
  have opens : Bracketed cid label (ofStatements [header]) := .of_plain (.cons plain .nil)
  exact opens.append (inside.deeper 1)

/-- An event between its messages. -/
theorem Bracketed.around {event : Event} {opening line closing : Line}
    (happens : event? line.statement = some event)
    (opens : IsMark cid label (.opening event) opening)
    (closes : IsMark cid label (.closing event) closing) (level : opening.depth = line.depth)
    (level' : closing.depth = line.depth) : Bracketed cid label [opening, line, closing] := by
  intro before place after split
  rcases before with _ | ⟨first, _ | ⟨second, _ | ⟨third, rest⟩⟩⟩
  · obtain ⟨rfl, rfl⟩ : opening = place ∧ [line, closing] = after := by simpa using split
    refine ⟨fun _ other => ?_, fun _ _ marked => ?_, fun _ _ marked => ?_⟩
    · rw [opens.event?_eq_none] at other
      exact absurd other (by simp)
    · obtain rfl := Mark.opening.inj (opens.unique marked)
      exact ⟨line, rfl, level.symm, happens⟩
    · exact absurd (opens.unique marked) (by simp)
  · obtain ⟨rfl, rfl, rfl⟩ : opening = first ∧ line = place ∧ [closing] = after := by
      simpa using split
    refine ⟨fun _ other => ?_, fun _ _ marked => ?_, fun _ _ marked => ?_⟩
    · obtain rfl := Option.some.inj (happens.symm.trans other)
      exact ⟨⟨opening, rfl, level, opens⟩, closing, rfl, level', closes⟩
    · rw [marked.event?_eq_none] at happens
      exact absurd happens (by simp)
    · rw [marked.event?_eq_none] at happens
      exact absurd happens (by simp)
  · obtain ⟨rfl, rfl, rfl, rfl⟩ :
        opening = first ∧ line = second ∧ closing = place ∧ [] = after := by
      simpa using split
    refine ⟨fun _ other => ?_, fun _ _ marked => ?_, fun _ _ marked => ?_⟩
    · rw [closes.event?_eq_none] at other
      exact absurd other (by simp)
    · exact absurd (closes.unique marked) (by simp)
    · obtain rfl := Mark.closing.inj (closes.unique marked)
      exact ⟨line, rfl, level'.symm, happens⟩
  · simp at split

end Closure

section Happenings

variable {cid : String}

end Happenings

section Operations

variable {view : View} {names : Names} {cid label : String}

end Operations

end Stagewright.Lifecycle
