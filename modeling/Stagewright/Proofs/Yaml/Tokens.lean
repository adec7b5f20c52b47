import Stagewright.Proofs.Yaml.Lexical
import Stagewright.Yaml.Tokens

/-!
Where the tokens of a document break off. A token is read or is at fault, and the end of the text is
found once, behind all others; so where a text breaks off the end is not among its tokens.
-/

namespace Stagewright.Yaml

open Attempt

namespace Lexer

/-- The end has not been found yet. -/
def Open (l : Lexer) : Prop := .streamEnd ∉ l.found

variable {l : Lexer}

theorem Open.push (opened : l.Open) {t : Token} (inside : t ≠ .streamEnd) : (l.push t).Open := by
  intro ended
  rcases List.mem_cons.mp ended with rfl | before
  · exact inside rfl
  · exact opened before

theorem Open.take (opened : l.Open) {t : Token} (inside : t ≠ .streamEnd) (length : Nat) :
    (l.take t length).Open :=
  Open.push (l := { l with cursor := l.cursor.forward length }) opened inside

theorem Open.insert (opened : l.Open) (number : Nat) {t : Token} (inside : t ≠ .streamEnd) :
    (l.insert number t).Open := by
  intro ended
  rcases List.mem_append.mp ended with later | earlier
  · exact opened (List.mem_of_mem_take later)
  · rcases List.mem_cons.mp earlier with rfl | before
    · exact inside rfl
    · exact opened (List.mem_of_mem_drop before)

theorem Open.unwind (opened : l.Open) (column : Int) (outer : List Int) :
    (unwind column l outer).Open := by
  induction outer generalizing l with
  | nil => exact opened
  | cons first rest ih =>
    rw [Lexer.unwind]
    split
    · exact ih (Open.push (l := { l with indent := first, outer := rest }) opened (by simp))
    · exact opened

theorem Open.beginBlock (opened : l.Open) {t : Token} (inside : t ≠ .streamEnd) :
    (l.beginBlock t).Open := by
  unfold Lexer.beginBlock
  split
  · exact Open.push (l := l.deepen l.cursor.column) opened inside
  · exact opened

/-- A step of the lexer that does not find the end, or is at fault. -/
abbrev Goes (x : Except Fault Lexer) : Prop := Meets Open (fun f => f.isLexical = true) x

theorem Open.dropStale (opened : l.Open) : Goes l.dropStale :=
  .ite (fun _ => .error rfl) fun _ => .ok opened

theorem Open.dropPlace (opened : l.Open) : Goes l.dropPlace :=
  .ite (fun _ => .error rfl) fun _ => .ok opened

theorem Open.savePlace (opened : l.Open) : Goes l.savePlace :=
  .ite (fun _ => .ok opened) fun _ => .bind opened.dropPlace fun _ dropped => .pure dropped

theorem Open.outside (opened : l.Open) : Goes l.outside :=
  .bind (opened.unwind _ _).dropPlace fun _ dropped => .pure dropped

theorem Open.documentMark (opened : l.Open) {t : Token} (inside : t ≠ .streamEnd) :
    Goes (l.documentMark t) :=
  .bind opened.outside fun _ outside => .pure (outside.take inside 3)

theorem Open.openFlow (opened : l.Open) {t : Token} (inside : t ≠ .streamEnd) :
    Goes (l.openFlow t) :=
  .bind opened.savePlace fun l saved =>
    .pure (Open.take (l := { l with flow := l.flow + 1, allowKey := true }) saved inside 1)

theorem Open.closeFlow (opened : l.Open) {t : Token} (inside : t ≠ .streamEnd) :
    Goes (l.closeFlow t) :=
  .bind opened.dropPlace fun l dropped => .ite (fun _ => .refuse rfl) fun _ =>
    .pure (Open.take (l := { l with flow := l.flow - 1, allowKey := false }) dropped inside 1)

theorem Open.flowEntry (opened : l.Open) : Goes l.flowEntry :=
  .bind (Open.dropPlace (l := { l with allowKey := true }) opened) fun _ dropped =>
    .pure (dropped.take (by simp) 1)

/-- Outside of brackets an indicator may begin a block. -/
theorem Open.blockWhen (opened : l.Open) {t : Token} (inside : t ≠ .streamEnd) (p : Prop)
    [Decidable p] : (if p then l.beginBlock t else l).Open := by
  split
  · exact opened.beginBlock inside
  · exact opened

theorem Open.indicated (opened : l.Open) (allowKey : Bool) {t : Token} (inside : t ≠ .streamEnd) :
    Goes (do
      let l ← { l with allowKey := allowKey }.dropPlace
      return l.take t 1) :=
  .bind (Open.dropPlace (l := { l with allowKey := allowKey }) opened) fun _ dropped =>
    .pure (dropped.take inside 1)

theorem Open.blockEntry (opened : l.Open) : Goes l.blockEntry :=
  .ite (fun _ => .refuse rfl) fun _ =>
    (opened.blockWhen (by simp) (l.flow = 0)).indicated true (by simp)

theorem Open.key (opened : l.Open) : Goes l.key :=
  .ite (fun _ => .refuse rfl) fun _ =>
    (opened.blockWhen (by simp) (l.flow = 0)).indicated _ (by simp)

theorem Open.value (opened : l.Open) : Goes l.value := by
  unfold Lexer.value
  split
  · rename_i place found
    refine .pure (Open.take (t := .value) ?_ (by simp) 1)
    have keyed : (Lexer.insert { l with places := l.places.filter (·.1 ≠ l.flow) } place.number
      .key).Open := Open.insert (t := .key) opened _ (by simp)
    change Open (if _ then _ else _)
    split
    · exact Open.insert (t := .blockMappingStart) keyed _ (by simp)
    · exact keyed
  · exact .ite (fun _ => .refuse rfl) fun _ =>
      (opened.blockWhen (by simp) (l.flow = 0)).indicated _ (by simp)

theorem Open.node {α : Type} (opened : l.Open) {read : Cursor → Except Fault (α × Cursor)}
    {t : α → Token} (lexical : ∀ c, Lexical (read c)) (inside : ∀ a, t a ≠ .streamEnd) :
    Goes (l.node read t) :=
  .bind opened.savePlace fun l saved => .bind (lexical _) fun (a, c) _ =>
    .pure (Open.push (l := { l with cursor := c, allowKey := false }) saved (inside a))

theorem Open.blockText (opened : l.Open) (folded : Bool) : Goes (l.blockText folded) :=
  .bind (Open.dropPlace (l := { l with allowKey := true }) opened) fun l dropped =>
    .bind (lexical_blockScalar _ _ _) fun (s, c) _ =>
      .pure (Open.push (l := { l with cursor := c }) dropped (by simp))

theorem Open.plainText (opened : l.Open) : Goes l.plainText :=
  .bind opened.savePlace fun l saved =>
    .pure (Open.push (l := { l with cursor := _, allowKey := _ }) saved (by simp))

/-- Reading a token goes on before the end. -/
theorem Open.readToken (opened : l.Open) : Goes l.readToken := by
  unfold Lexer.readToken
  refine .ite (fun _ => ?directive) fun _ => ?_
  case directive =>
    exact .bind opened.outside fun l outside => .bind (lexical_directiveLine _) fun (d, c) _ =>
      .pure (Open.push (l := { l with cursor := c }) outside (by simp))
  refine .ite (fun _ => opened.documentMark (by split <;> simp)) fun _ => ?_
  refine .ite (fun _ => opened.openFlow (by simp)) fun _ => ?_
  refine .ite (fun _ => opened.openFlow (by simp)) fun _ => ?_
  refine .ite (fun _ => opened.closeFlow (by simp)) fun _ => ?_
  refine .ite (fun _ => opened.closeFlow (by simp)) fun _ => ?_
  refine .ite (fun _ => opened.flowEntry) fun _ => ?_
  refine .ite (fun _ => opened.blockEntry) fun _ => ?_
  refine .ite (fun _ => opened.key) fun _ => ?_
  refine .ite (fun _ => opened.value) fun _ => ?_
  refine .ite (fun _ => opened.node lexical_anchorName (by simp)) fun _ => ?_
  refine .ite (fun _ => opened.node lexical_anchorName (by simp)) fun _ => ?_
  refine .ite (fun _ => opened.node lexical_tagProperty (by simp)) fun _ => ?_
  refine .ite (fun _ => opened.blockText false) fun _ => ?_
  refine .ite (fun _ => opened.blockText true) fun _ => ?_
  refine .ite (fun _ => opened.node (lexical_quotedScalar false) (by simp)) fun _ => ?_
  refine .ite (fun _ => opened.node (lexical_quotedScalar true) (by simp)) fun _ => ?_
  exact .ite (fun _ => opened.plainText) fun _ => .error rfl

theorem Open.certain (opened : l.Open) : .streamEnd ∉ l.certain := by
  unfold Lexer.certain
  split
  · exact opened
  · rename_i dropped found
    have still : dropped.Open := (found ▸ opened.dropStale).of_ok
    exact fun ended => still (List.mem_of_mem_drop ended)

/-- A step does not find the end, unless it is the last one, which finds nothing else. -/
theorem Open.step (opened : l.Open) :
    Meets (fun s => if s.1 then .streamEnd ∉ s.2.found.drop 1 else s.2.Open)
      (fun f => f.isLexical = true) l.step := by
  unfold Lexer.step
  refine .bind (Open.dropStale (l := l.toNext) opened) fun fresh dropped => ?_
  have unwound := dropped.unwind fresh.cursor.column fresh.outer
  exact .ite (fun _ => .bind unwound.outside fun _ outside => .pure outside)
    fun _ => .bind unwound.readToken fun _ read => .pure read

/-- A run that ends with a fault has not found the end, and any other one finds it last. -/
theorem Open.run (opened : l.Open) (fuel : Nat) :
    match l.run fuel with
    | (found, some f) => f.isLexical = true ∧ .streamEnd ∉ found
    | (found, none) => .streamEnd ∉ found.drop 1 := by
  induction fuel generalizing l with
  | zero => exact fun ended => opened (List.mem_of_mem_drop ended)
  | succ fuel ih =>
    have stepped := opened.step
    rw [Lexer.run]
    rcases taken : l.step with f | ⟨last, next⟩
    · rw [taken] at stepped
      exact ⟨stepped.of_error, opened.certain⟩
    · rw [taken] at stepped
      cases last with
      | true => exact stepped.of_ok
      | false => exact ih stepped.of_ok

end Lexer

/-- Where tokens break off they do so with a fault of their own, or at the place where their text
breaks off; and then the end is not among them. -/
theorem tokens_broken {source : Source} {f : Fault} (broken : (tokens source).2 = some f) :
    (f.isLexical = true ∨ source.ending = some f) ∧ .streamEnd ∉ (tokens source).1 := by
  have start : Lexer.Open { cursor := { rest := source.text } } := List.not_mem_nil
  have ran := start.run (source.text.length + 1)
  revert broken
  unfold tokens
  dsimp only
  split
  · rename_i found ending ended breaksOff
    intro same
    obtain rfl := Option.some.inj same
    rw [ended] at ran
    exact ⟨.inr breaksOff, by simpa using ran.2⟩
  · rename_i found fault ended finished
    intro same
    obtain rfl := Option.some.inj same
    rw [ended] at ran
    exact ⟨.inl ran.1, by simpa using ran.2⟩
  · rename_i found ending ended breaksOff
    intro same
    obtain rfl := Option.some.inj same
    rw [ended] at ran
    exact ⟨.inr breaksOff, by simpa using ran⟩
  · exact fun same => absurd same (by simp)

/-- Text that breaks off has tokens that do. -/
theorem tokens_broken_of_ending {source : Source} (breaksOff : source.ending.isSome) :
    ∃ f, (tokens source).2 = some f := by
  obtain ⟨ending, same⟩ := Option.isSome_iff_exists.mp breaksOff
  unfold tokens
  dsimp only
  split
  · exact ⟨_, rfl⟩
  · exact ⟨_, rfl⟩
  · exact ⟨_, rfl⟩
  · rename_i goesOn
    exact absurd (same.symm.trans goesOn) (by simp)

end Stagewright.Yaml
