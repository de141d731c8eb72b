import Gradebook.Json.Layout
import Gradebook.Proofs.Json.Token
import Mathlib.Data.List.Chain

/-!
# White space between tokens

A text of a value is made of its tokens with any white space in front of, between and behind them; the
indented layout is one of them.  The tokens are read back from each: those of a value never have one
number next to another, so a number ends where its token does, whether white space follows or not.
-/

namespace Gradebook.Json

/-- The tokens in order, with white space around them or not. -/
inductive Spaced : List Token → List Char → Prop
  | nil {blank : List Char} (hblank : ∀ c ∈ blank, isSpace c = true) : Spaced [] blank
  | cons {blank rest : List Char} {t : Token} {ts : List Token}
      (hblank : ∀ c ∈ blank, isSpace c = true) (hrest : Spaced ts rest) :
      Spaced (t :: ts) (blank ++ t.write ++ rest)

namespace Spaced

variable {ts us : List Token} {s r blank : List Char}

theorem blank_append (hblank : ∀ c ∈ blank, isSpace c = true) (h : Spaced ts s) :
    Spaced ts (blank ++ s) := by
  cases h with
  | nil hlast => exact .nil (List.forall_mem_append.2 ⟨hblank, hlast⟩)
  | cons hfirst hrest =>
    rw [← List.append_assoc, ← List.append_assoc]
    exact .cons (List.forall_mem_append.2 ⟨hblank, hfirst⟩) hrest

theorem append (h : Spaced ts s) (k : Spaced us r) : Spaced (ts ++ us) (s ++ r) := by
  induction h with
  | nil hblank => exact k.blank_append hblank
  | cons hblank _ ih =>
    rw [List.append_assoc]
    exact .cons hblank ih

theorem token (t : Token) : Spaced [t] t.write := by
  have h : Spaced [t] ([] ++ t.write ++ []) := .cons nofun (.nil nofun)
  rwa [List.nil_append, List.append_nil] at h

theorem flatMap (hblank : ∀ c ∈ blank, isSpace c = true) (ts : List Token) :
    Spaced ts (ts.flatMap fun t => blank ++ t.write) := by
  induction ts with
  | nil => exact .nil nofun
  | cons t ts ih =>
    rw [List.flatMap_cons]
    exact .cons hblank ih

end Spaced

def Token.isNumber : Token → Bool
  | integer _ | decimal _ => true
  | _ => false

/-- No two numbers stand side by side. -/
def Token.MayMeet (t u : Token) : Prop :=
  t.isNumber = true → u.isNumber = false

theorem isNumberChar_of_isSpace {c : Char} (h : isSpace c = true) : isNumberChar c = false := by
  simp only [isSpace, Bool.or_eq_true, beq_iff_eq] at h
  obtain ((rfl | rfl) | rfl) | rfl := h <;> decide

theorem endsNumber_write {t : Token} (h : t.isNumber = false) (rest : List Char) :
    EndsNumber (t.write ++ rest) := by
  cases t with
  | integer n => cases h
  | decimal literal => cases h
  | bool b => cases b <;> exact endsNumber_cons (by decide)
  | _ => exact endsNumber_cons (by decide)

theorem Spaced.endsNumber {ts : List Token} {s rest : List Char} (h : Spaced ts s)
    (hhead : ∀ t ∈ ts.head?, t.isNumber = false) (hrest : EndsNumber rest) :
    EndsNumber (s ++ rest) := by
  cases h with
  | nil hblank =>
    cases s with
    | nil => exact hrest
    | cons c s => exact endsNumber_cons (isNumberChar_of_isSpace (hblank c List.mem_cons_self))
  | @cons blank later t ts hblank hlater =>
    cases blank with
    | nil =>
      rw [List.nil_append, List.append_assoc]
      exact endsNumber_write (hhead t rfl) (later ++ rest)
    | cons c blank => exact endsNumber_cons (isNumberChar_of_isSpace (hblank c List.mem_cons_self))

/-- Tokens that may stand side by side are read back from any text of theirs. -/
theorem tokens?_spaced {ts : List Token} {s rest : List Char} (h : Spaced ts s)
    (hwrite : ∀ t ∈ ts, t.IsWritable) (hmeet : ts.IsChain Token.MayMeet) (hrest : EndsNumber rest) :
    tokens? (s ++ rest) = (ts ++ ·) <$> tokens? rest := by
  induction h with
  | nil hblank =>
    rw [tokens?_spaces hblank]
    cases tokens? rest <;> rfl
  | @cons blank later t ts hblank hlater ih =>
    obtain ⟨hnext, hchain⟩ := List.isChain_cons.1 hmeet
    have hend : t.MayPrecede (later ++ rest) := by
      cases t with
      | integer n => exact hlater.endsNumber (fun u hu => hnext u hu rfl) hrest
      | decimal literal => exact hlater.endsNumber (fun u hu => hnext u hu rfl) hrest
      | _ => exact trivial
    have htail := ih (fun u hu => hwrite u (List.mem_cons_of_mem t hu)) hchain
    rw [List.append_assoc, List.append_assoc, tokens?_spaces hblank,
      tokens?_write (hwrite t List.mem_cons_self) hend, htail]
    cases tokens? rest <;> rfl

namespace Value

theorem isChain_cons {t : Token} {ts : List Token} (ht : t.isNumber = false)
    (h : ts.IsChain Token.MayMeet) : (t :: ts).IsChain Token.MayMeet := by
  refine List.isChain_cons.2 ⟨fun u _ hnumber => ?_, h⟩
  rw [ht] at hnumber
  cases hnumber

theorem isChain_append {ts us : List Token} (hts : ts.IsChain Token.MayMeet)
    (hus : us.IsChain Token.MayMeet) (hhead : ∀ u ∈ us.head?, u.isNumber = false) :
    (ts ++ us).IsChain Token.MayMeet :=
  List.isChain_append.2 ⟨hts, hus, fun _ _ u hu _ => hhead u hu⟩

theorem head?_tokensOfItems (items : List Value) :
    ∀ u ∈ (tokensOfItems items).head?, u.isNumber = false := by
  cases items <;> rintro u ⟨⟩ <;> rfl

theorem head?_tokensOfMembers (members : List (String × Value)) :
    ∀ u ∈ (tokensOfMembers members).head?, u.isNumber = false := by
  cases members <;> rintro u ⟨⟩ <;> rfl

mutual

theorem isChain_tokens : ∀ v : Value, v.tokens.IsChain Token.MayMeet
  | null => List.isChain_singleton _
  | bool _ => List.isChain_singleton _
  | integer _ => List.isChain_singleton _
  | decimal _ => List.isChain_singleton _
  | string _ => List.isChain_singleton _
  | unreadable => List.isChain_singleton _
  | array [] => isChain_cons rfl (List.isChain_singleton _)
  | array (v :: items) => by
    rw [tokens]
    exact isChain_cons rfl
      (isChain_append (isChain_tokens v) (isChain_tokensOfItems items) (head?_tokensOfItems items))
  | object [] => isChain_cons rfl (List.isChain_singleton _)
  | object ((k, v) :: members) => by
    rw [tokens]
    exact isChain_cons rfl (isChain_cons rfl (isChain_cons rfl
      (isChain_append (isChain_tokens v) (isChain_tokensOfMembers members)
        (head?_tokensOfMembers members))))

theorem isChain_tokensOfItems : ∀ items : List Value,
    (tokensOfItems items).IsChain Token.MayMeet
  | [] => List.isChain_singleton _
  | v :: items => by
    rw [tokensOfItems]
    exact isChain_cons rfl
      (isChain_append (isChain_tokens v) (isChain_tokensOfItems items) (head?_tokensOfItems items))

theorem isChain_tokensOfMembers : ∀ members : List (String × Value),
    (tokensOfMembers members).IsChain Token.MayMeet
  | [] => List.isChain_singleton _
  | (k, v) :: members => by
    rw [tokensOfMembers]
    exact isChain_cons rfl (isChain_cons rfl (isChain_cons rfl
      (isChain_append (isChain_tokens v) (isChain_tokensOfMembers members)
        (head?_tokensOfMembers members))))

end

theorem isSpace_newLine (level : Nat) : ∀ c ∈ newLine level, isSpace c = true := by
  intro c hc
  rcases List.mem_cons.1 hc with rfl | hc
  · decide
  · rw [List.eq_of_mem_replicate hc]
    decide

theorem spaced_name (k : String) : Spaced [.string (some k), .colon] (quote k.toList ++ [':', ' ']) :=
  have hspace : ∀ c ∈ [' '], isSpace c = true := by simp [isSpace]
  (Spaced.token (.string (some k))).append ((Spaced.token .colon).append (.nil hspace))

mutual

theorem spaced_layout (level : Nat) : ∀ v : Value, Spaced v.tokens (v.layout level)
  | null => .token _
  | bool _ => .token _
  | integer _ => .token _
  | decimal literal => .token (.decimal literal)
  | string _ => .token _
  | unreadable => .token _
  | array [] => by
    rw [tokens, layout]
    exact (Spaced.token .openArray).append (.token .closeArray)
  | array (v :: items) => by
    have hitems := (spaced_layout (level + 1) v).append (spaced_layoutItems level items)
    have h := (Spaced.token .openArray).append (hitems.blank_append (isSpace_newLine (level + 1)))
    simpa [tokens, layout, Token.write] using h
  | object [] => by
    rw [tokens, layout]
    exact (Spaced.token .openObject).append (.token .closeObject)
  | object ((k, v) :: members) => by
    have hmembers := (spaced_name k).append
      ((spaced_layout (level + 1) v).append (spaced_layoutMembers level members))
    have h := (Spaced.token .openObject).append
      (hmembers.blank_append (isSpace_newLine (level + 1)))
    simpa [tokens, layout, Token.write] using h

theorem spaced_layoutItems (level : Nat) : ∀ items : List Value,
    Spaced (tokensOfItems items) (layoutItems level items)
  | [] => by
    rw [tokensOfItems, layoutItems]
    exact (Spaced.token .closeArray).blank_append (isSpace_newLine level)
  | v :: items => by
    have hitems := (spaced_layout (level + 1) v).append (spaced_layoutItems level items)
    have h := (Spaced.token .comma).append (hitems.blank_append (isSpace_newLine (level + 1)))
    simpa [tokensOfItems, layoutItems, Token.write] using h

theorem spaced_layoutMembers (level : Nat) : ∀ members : List (String × Value),
    Spaced (tokensOfMembers members) (layoutMembers level members)
  | [] => by
    rw [tokensOfMembers, layoutMembers]
    exact (Spaced.token .closeObject).blank_append (isSpace_newLine level)
  | (k, v) :: members => by
    have hmembers := (spaced_name k).append
      ((spaced_layout (level + 1) v).append (spaced_layoutMembers level members))
    have h := (Spaced.token .comma).append (hmembers.blank_append (isSpace_newLine (level + 1)))
    simpa [tokensOfMembers, layoutMembers, Token.write] using h

end

/-- The tokens of a value are read back from its layout, whatever follows that ends a number. -/
theorem tokens?_layout (level : Nat) (v : Value) (rest : List Char)
    (hv : ∀ t ∈ v.tokens, t.IsWritable) (hrest : EndsNumber rest) :
    tokens? (v.layout level ++ rest) = (v.tokens ++ ·) <$> tokens? rest :=
  tokens?_spaced (spaced_layout level v) hv v.isChain_tokens hrest

end Value

end Gradebook.Json
