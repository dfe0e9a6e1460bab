/-
# Proofs.Sql.Binding -- a statement with the arguments at its placeholders

What is run is not the text of a condition with its parameters but the expanded text, in
which every placeholder stands for the argument whose turn it is.  `pieces?` reads such a
text with its arguments; it knows tokens and nothing of how a condition is written.

* `Runs` says which pieces a text with parameters is run as wherever it stands outside of
  names; such texts may be put one behind the other (`Runs.append`);
* `Runs.set`: a set is run as its elements, and as `NULL` if it has none.
-/
import CatalogListing.Proofs.Sql.Layout
import CatalogListing.Proofs.Sql.Token

namespace CatalogListing.Sql

set_option autoImplicit false

/-- A piece of what is run: a token, or the argument of a placeholder. -/
inductive Piece where
  | token (token : Token)
  | bound (argument : Argument)
  deriving DecidableEq, Repr

/-- Tokens with an argument at each placeholder, if there are as many. -/
def bind? : List Token → List Argument → Option (List Piece)
  | [], [] => some []
  | [], _ :: _ => none
  | token :: rest, arguments =>
      match token, arguments with
      | .placeholder, [] => none
      | .placeholder, argument :: others => (bind? rest others).map (.bound argument :: ·)
      | token, arguments => (bind? rest arguments).map (.token token :: ·)

/-- The pieces of a text with its arguments. -/
def Expanded.pieces? (expanded : Expanded) : Option (List Piece) :=
  (lexemes? expanded.sql).bind fun lexemes => bind? (tokensOf lexemes) expanded.arguments

/-! ## Tokens and their arguments -/

/-- In front of anything else the tokens take the arguments and become the pieces. -/
def Binds (tokens : List Token) (arguments : List Argument) (pieces : List Piece) : Prop :=
  ∀ (rest : List Token) (more : List Argument),
    bind? (tokens ++ rest) (arguments ++ more) = (bind? rest more).map (pieces ++ ·)

namespace Binds

variable {tokens others : List Token} {arguments more : List Argument}
  {pieces later : List Piece}

theorem nil : Binds [] [] [] := fun rest more => by simp

theorem append (binds : Binds tokens arguments pieces) (behind : Binds others more later) :
    Binds (tokens ++ others) (arguments ++ more) (pieces ++ later) := by
  intro rest still
  rw [List.append_assoc, List.append_assoc, binds, behind, Option.map_map]
  simp [Function.comp_def]

theorem placeholder (argument : Argument) :
    Binds [.placeholder] [argument] [.bound argument] := fun _ _ => rfl

theorem token {token : Token} (other : token ≠ .placeholder) :
    Binds [token] [] [.token token] := by
  intro rest more
  cases token <;> first | rfl | exact absurd rfl other

/-- Tokens without placeholders take nothing. -/
theorem of_notMem (unbound : Token.placeholder ∉ tokens) :
    Binds tokens [] (tokens.map .token) := by
  induction tokens with
  | nil => exact .nil
  | cons first rest ih =>
      have one := token (List.ne_of_not_mem_cons unbound).symm
      exact one.append (ih (List.not_mem_of_not_mem_cons unbound))

end Binds

/-! ## Texts and their arguments -/

/-- With the arguments at its placeholders the text is read as the pieces, wherever it stands
outside of names. -/
def Carries (text : Text) (arguments : List Argument) (pieces : List Piece) : Prop :=
  ∃ lexemes tokens, Lexes text lexemes ∧ Takes lexemes tokens ∧ Binds tokens arguments pieces

namespace Carries

variable {text other : Text} {arguments more : List Argument} {pieces later : List Piece}

theorem append (carries : Carries text arguments pieces) (behind : Carries other more later) :
    Carries (text ++ other) (arguments ++ more) (pieces ++ later) := by
  obtain ⟨lexemes, tokens, lexes, takes, binds⟩ := carries
  obtain ⟨lexemes', tokens', lexes', takes', binds'⟩ := behind
  exact ⟨_, _, lexes.append lexes', takes.append takes', binds.append binds'⟩

theorem pieces?_eq (carries : Carries text arguments pieces) :
    Expanded.pieces? ⟨text, arguments⟩ = some pieces := by
  obtain ⟨lexemes, tokens, lexes, takes, binds⟩ := carries
  have bound : bind? tokens arguments = some pieces := by
    simpa [bind?] using binds [] []
  simp [Expanded.pieces?, lexes.lexemes?_eq, takes.tokensOf_eq, bound]

/-- A fixed text without names and placeholders. -/
theorem fixed (tokens : List Token) (unquoted : backtick ∉ text)
    (takes : Takes (text.map .char) tokens) (unbound : Token.placeholder ∉ tokens) :
    Carries text [] (tokens.map .token) :=
  ⟨_, tokens, .plain unquoted, takes, .of_notMem unbound⟩

theorem placeholder (argument : Argument) : Carries ['?'] [argument] [.bound argument] :=
  ⟨_, [.placeholder], .plain (by decide), fun _ => rfl, .placeholder argument⟩

end Carries

/-- The elements of a set as they are run. -/
def elements (items : List Text) : List Piece :=
  match items with
  | [] => [.token (.keyword .null)]
  | items => List.intercalate [.token (.mark ',')] (items.map fun item => [.bound (.text item)])

/-- A list of placeholders is run as its elements. -/
theorem carries_placeholders {items : List Text} (some_ : items ≠ []) :
    Carries (placeholders items.length) (items.map .text) (elements items) := by
  induction items with
  | nil => exact absurd rfl some_
  | cons first rest ih =>
      cases rest with
      | nil => exact .placeholder (.text first)
      | cons second others =>
          have comma : Carries ", " [] [.token (.mark ',')] :=
            .fixed [.mark ','] (by decide) (fun _ => rfl) (by decide)
          exact (Carries.placeholder (.text first)).append (comma.append (ih (by simp)))

/-! ## Texts and their parameters -/

/-- With the parameters at its placeholders the text is run as the pieces, wherever it stands
outside of names. -/
structure Runs (text : Text) (parameters : List Parameter) (pieces : List Piece) : Prop where
  reads : Reads (fun _ => True) text parameters.length
  carries : Carries (expandText false text parameters).sql
    (expandText false text parameters).arguments pieces

namespace Runs

variable {text other : Text} {parameters more : List Parameter} {pieces later : List Piece}

theorem nil : Runs [] [] [] := ⟨.nil, [], [], .nil, fun _ => rfl, .nil⟩

theorem append (runs : Runs text parameters pieces) (behind : Runs other more later) :
    Runs (text ++ other) (parameters ++ more) (pieces ++ later) where
  reads := by
    rw [List.length_append]
    exact runs.reads.append behind.reads
  carries := by
    rw [runs.reads.balanced.expandText_append]
    exact runs.carries.append behind.carries

theorem pieces?_eq (runs : Runs text parameters pieces) :
    (Predicate.expand ⟨text, parameters⟩).pieces? = some pieces :=
  runs.carries.pieces?_eq

/-- A fixed text, whose characters can be looked through. -/
theorem fixed (tokens : List Token) (glue : Glue text) (takes : Takes (text.map .char) tokens)
    (unbound : Token.placeholder ∉ tokens) : Runs text [] (tokens.map .token) where
  reads := glue.reads _
  carries := by
    rw [expandText_of_unmarked (glue.reads fun _ => True).countPlaceholders_eq]
    exact .fixed tokens glue.1 takes unbound

theorem closing : Runs [')'] [] [.token .closing] :=
  .fixed [.closing] (by decide) (fun _ => rfl) (by decide)

/-- The placeholder of a parameter that is no set. -/
theorem placeholder {parameter : Parameter} {argument : Argument}
    (single : parameter.slots = ['?'] ∧ parameter.arguments = [argument]) :
    Runs ['?'] [parameter] [.bound argument] where
  reads := .fixed ⟨by decide, rfl⟩
  carries := by
    rw [expandText_mark, single.1, single.2]
    exact .placeholder argument

/-- The placeholder of a set, behind the parenthesis that opens its list. -/
theorem set (items : List Text) :
    Runs ['(', '?'] [.list items] (.token .opening :: elements items) where
  reads := .fixed ⟨by decide, rfl⟩
  carries := by
    cases items with
    | nil =>
        -- Behind a word `NULL` would go on with it, so it is read with the parenthesis.
        exact .fixed [.opening, .keyword .null] (by decide) (fun _ => rfl) (by decide)
    | cons first rest =>
        have opening : Carries ['('] [] [.token .opening] :=
          .fixed [.opening] (by decide) (fun _ => rfl) (by decide)
        have whole := opening.append (carries_placeholders (List.cons_ne_nil first rest))
        have expanded : expandText false ['(', '?'] [.list (first :: rest)] =
            ⟨['('] ++ placeholders (first :: rest).length, (first :: rest).map .text⟩ := by
          simp [expandText, quotedAfter, backtick, Expanded.after, Parameter.slots,
            Parameter.width, Parameter.arguments]
        rw [expanded]
        exact whole

/-- A name in front of a text that goes on with neither a backtick nor a placeholder. -/
theorem quote (name : Text) {c : Char} (unquoted : c ≠ backtick) (unmarked : c ≠ '?')
    (runs : Runs (c :: text) parameters pieces) :
    Runs (Sql.quote name ++ c :: text) parameters (.token (.name name) :: pieces) where
  reads := runs.reads.quote trivial (by simpa [Reads.goesOnApart] using unquoted)
  carries := by
    have one : Reads (fun _ => True) [c] 0 := by
      refine .fixed ⟨by simpa using unquoted.symm, ?_⟩
      rw [List.count_singleton]
      simp [unmarked]
    have glued : Reads (fun _ => True) (Sql.quote name ++ [c]) ([] : List Parameter).length :=
      one.quote trivial (by simpa [Reads.goesOnApart] using unquoted)
    have alone := expandText_of_unmarked glued.countPlaceholders_eq []
    have first := expandText_of_unmarked one.countPlaceholders_eq []
    have split := glued.balanced.expandText_append text parameters
    have tail := @Balanced.expandText_append _ [] one.balanced text parameters
    rw [List.append_assoc, List.singleton_append, List.nil_append, alone] at split
    rw [List.singleton_append, List.nil_append, first] at tail
    obtain ⟨lexemes, tokens, lexes, takes, binds⟩ := runs.carries
    rw [tail] at lexes binds
    rw [split]
    refine ⟨.name name :: lexemes, .name name :: tokens, ?_, ?_, ?_⟩
    · rw [Expanded.after, List.append_assoc]
      exact .quote name unquoted lexes
    · exact (Takes.name name).append takes
    · exact (Binds.token (Token.noConfusion)).append binds

end Runs

end CatalogListing.Sql
