import PadScout.Proofs.Json.Lexing

/-! # Values are read from every text that spells them

The tokens of a value make up that value (`ofTokens?_tokens`), so a text that spells a value is
read as this value, however it is laid out and escaped (`parse?_of_spells`).
-/
namespace PadScout
namespace Json
namespace Stage

theorem run_cons_of_next {stage stage' : Stage} {t : Token} (h : stage.next t = some stage')
    (ts : List Token) : stage.run (t :: ts) = stage'.run ts := by
  rw [run, h]

/-- The first token of a value opens it, whether the value is the first of an array or not. -/
theorem run_firstElement (v : Json) (frames : List Frame) (ts : List Token) :
    (firstElement frames).run (v.tokens ++ ts) =
      (value (.array [] :: frames)).run (v.tokens ++ ts) := by
  have hfirst : ∃ t rest, v.tokens = t :: rest ∧ t ≠ .closeArray := by
    match v with
    | .null | .bool _ | .number _ | .text _ | .array [] | .array (_ :: _) | .object []
    | .object (_ :: _) =>
      refine ⟨_, _, rfl, ?_⟩
      nofun
  obtain ⟨t, rest, htokens, ht⟩ := hfirst
  rw [htokens, List.cons_append, run, run, next, next, if_neg ht]

mutual

/-- **The tokens of a value** complete it. -/
theorem run_tokens (frames : List Frame) (ts : List Token) :
    ∀ v : Json, (value frames).run (v.tokens ++ ts) = (after v frames).run ts
  | .null | .bool _ | .number _ | .text _ => by
    rw [tokens]
    exact run_cons_of_next rfl ts
  | .array [] => by
    rw [tokens]
    exact (run_cons_of_next rfl _).trans (run_cons_of_next rfl ts)
  | .array (v :: vs) => by
    have hfirst := run_tokens (.array [] :: frames) (elementTokens vs ++ .closeArray :: ts) v
    have hrest := run_elementTokens [] frames ts v vs
    rw [tokens]
    simp only [List.cons_append, List.nil_append, List.append_assoc]
    rw [run_cons_of_next rfl, run_firstElement, hfirst, hrest]
    rfl
  | .object [] => by
    rw [tokens]
    exact (run_cons_of_next rfl _).trans (run_cons_of_next rfl ts)
  | .object ((name, v) :: ms) => by
    have hfirst := run_tokens (.object [] name :: frames) (membersTokens ms ++ .closeObject :: ts) v
    have hrest := run_membersTokens [] name frames ts v ms
    rw [tokens, memberTokens]
    simp only [List.cons_append, List.nil_append, List.append_assoc]
    rw [run_cons_of_next rfl, run_cons_of_next rfl, run_cons_of_next rfl, hfirst, hrest]
    rfl

/-- Elements are collected until the array is closed. -/
theorem run_elementTokens (elements : List Json) (frames : List Frame) (ts : List Token) (v : Json) :
    ∀ vs : List Json,
      (after v (.array elements :: frames)).run (elementTokens vs ++ .closeArray :: ts) =
        (after (.array (elements.reverse ++ v :: vs)) frames).run ts
  | [] => by
    have hclose : (after v (.array elements :: frames)).next .closeArray =
        some (after (.array (v :: elements).reverse) frames) := rfl
    rw [elementTokens, List.nil_append, run_cons_of_next hclose, List.reverse_cons]
  | w :: vs => by
    have hvalue := run_tokens (.array (v :: elements) :: frames)
      (elementTokens vs ++ .closeArray :: ts) w
    have hrest := run_elementTokens (v :: elements) frames ts w vs
    rw [elementTokens]
    simp only [List.cons_append, List.append_assoc]
    rw [run_cons_of_next rfl, hvalue, hrest, List.reverse_cons, List.append_assoc]
    rfl

/-- Members are collected until the object is closed. -/
theorem run_membersTokens (members : List Member) (name : Option (List Char))
    (frames : List Frame) (ts : List Token) (v : Json) : ∀ ms : List Member,
      (after v (.object members name :: frames)).run (membersTokens ms ++ .closeObject :: ts) =
        (after (.object (members.reverse ++ (name, v) :: ms)) frames).run ts
  | [] => by
    have hclose : (after v (.object members name :: frames)).next .closeObject =
        some (after (.object ((name, v) :: members).reverse) frames) := rfl
    rw [membersTokens, List.nil_append, run_cons_of_next hclose, List.reverse_cons]
  | (other, w) :: ms => by
    have hvalue := run_tokens (.object ((name, v) :: members) other :: frames)
      (membersTokens ms ++ .closeObject :: ts) w
    have hrest := run_membersTokens ((name, v) :: members) other frames ts w ms
    rw [membersTokens, memberTokens]
    simp only [List.cons_append, List.append_assoc]
    rw [run_cons_of_next rfl, run_cons_of_next rfl, run_cons_of_next rfl, hvalue, hrest,
      List.reverse_cons, List.append_assoc]
    rfl

end

end Stage

theorem ofTokens?_tokens (v : Json) : ofTokens? v.tokens = some v := by
  have hrun := Stage.run_tokens [] [] v
  rw [List.append_nil] at hrun
  rw [ofTokens?, hrun]
  rfl

/-- **A text that spells a value** is read as the value. -/
theorem parse?_of_spells {v : Json} {text : List Char} (h : Spells v text) :
    parse? text = some v := by
  rw [parse?, tokens?_of_spells h]
  exact ofTokens?_tokens v

end Json
end PadScout
