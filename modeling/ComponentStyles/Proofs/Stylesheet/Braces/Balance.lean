import ComponentStyles.Proofs.Stylesheet.Parser.Kept
import Mathlib.Data.List.Infix

/-!
# Braces

A run of tokens is balanced if it closes the braces that it opens and no others. The parser counts
braces, but it also reads over some: one that stands where a value or a declaration is expected is
reported and then forgotten. A `Walk` is what the parser sees, the braces that it forgets put down as
strays; without strays, a walk that comes back to its level is balanced.
-/

namespace ComponentStyles

open Token

/-- One level down behind an opening brace, one level up behind a closing one. -/
def Token.Kind.weight : Kind → Int
  | .openBrace => 1
  | .closeBrace => -1
  | _ => 0

/-- The opening braces less the closing ones. -/
def depth : List Token → Int
  | [] => 0
  | token :: rest => token.kind.weight + depth rest

/-- Every brace that is opened is closed, and no other one. -/
structure Balanced (tokens : List Token) : Prop where
  never : ∀ front, front <+: tokens → 0 ≤ depth front
  total : depth tokens = 0

theorem balanced_iff {tokens : List Token} :
    Balanced tokens ↔ (∀ front ∈ tokens.inits, 0 ≤ depth front) ∧ depth tokens = 0 := by
  simp only [List.mem_inits]
  exact ⟨fun balanced => ⟨balanced.never, balanced.total⟩, fun counted => ⟨counted.1, counted.2⟩⟩

instance (tokens : List Token) : Decidable (Balanced tokens) :=
  decidable_of_iff _ balanced_iff.symm

section Depth

variable {token : Token} {tokens others front : List Token}

@[simp] theorem depth_nil : depth [] = 0 := rfl

@[simp] theorem depth_cons : depth (token :: tokens) = token.kind.weight + depth tokens := rfl

@[simp] theorem depth_append : depth (tokens ++ others) = depth tokens + depth others := by
  induction tokens with
  | nil => simp
  | cons token rest inductionHypothesis =>
      rw [List.cons_append, depth_cons, depth_cons, inductionHypothesis, Int.add_assoc]

theorem Token.Kind.weight_eq_zero {kind : Kind} (notOpening : kind ≠ .openBrace)
    (notClosing : kind ≠ .closeBrace) : kind.weight = 0 := by
  cases kind <;> simp_all [weight]

theorem Token.Kind.weight_of_mem {kind : Kind} {kinds : List Kind} (listed : kind ∈ kinds)
    (opening : .openBrace ∉ kinds) (closing : .closeBrace ∉ kinds) : kind.weight = 0 :=
  weight_eq_zero (ne_of_mem_of_not_mem listed opening) (ne_of_mem_of_not_mem listed closing)

end Depth

/-- The levels of braces along a run of tokens, from one level to another. An opening brace that does not
count is put down as a stray. -/
inductive Walk : Nat → List Token → List Span → Nat → Prop where
  | nil {level : Nat} : Walk level [] [] level
  | opening {level last : Nat} {token : Token} {rest : List Token} {strays : List Span}
      (opens : token.kind = .openBrace) (behind : Walk (level + 1) rest strays last) :
      Walk level (token :: rest) strays last
  | closing {level last : Nat} {token : Token} {rest : List Token} {strays : List Span}
      (closes : token.kind = .closeBrace) (behind : Walk level rest strays last) :
      Walk (level + 1) (token :: rest) strays last
  | other {level last : Nat} {token : Token} {rest : List Token} {strays : List Span}
      (flat : token.kind.weight = 0) (behind : Walk level rest strays last) :
      Walk level (token :: rest) strays last
  | stray {level last : Nat} {token : Token} {rest : List Token} {strays : List Span}
      (opens : token.kind = .openBrace) (behind : Walk level rest strays last) :
      Walk level (token :: rest) (token.span :: strays) last

namespace Walk

variable {level middle last : Nat} {tokens others front : List Token} {strays more : List Span}
  {token : Token}

theorem append (walk : Walk level tokens strays middle) (later : Walk middle others more last) :
    Walk level (tokens ++ others) (strays ++ more) last := by
  induction walk with
  | nil => exact later
  | opening opens _ inductionHypothesis => exact .opening opens (inductionHypothesis later)
  | closing closes _ inductionHypothesis => exact .closing closes (inductionHypothesis later)
  | other flat _ inductionHypothesis => exact .other flat (inductionHypothesis later)
  | stray opens _ inductionHypothesis => exact .stray opens (inductionHypothesis later)

theorem exists_append (walk : Walk level (front ++ others) strays last) : ∃ first later middle,
    strays = first ++ later ∧ Walk level front first middle ∧ Walk middle others later last := by
  induction front generalizing level strays with
  | nil => exact ⟨[], strays, level, rfl, .nil, walk⟩
  | cons token front inductionHypothesis =>
      cases walk with
      | opening opens behind =>
          obtain ⟨first, later, middle, same, walk, behind⟩ := inductionHypothesis behind
          exact ⟨first, later, middle, same, .opening opens walk, behind⟩
      | closing closes behind =>
          obtain ⟨first, later, middle, same, walk, behind⟩ := inductionHypothesis behind
          exact ⟨first, later, middle, same, .closing closes walk, behind⟩
      | other flat behind =>
          obtain ⟨first, later, middle, same, walk, behind⟩ := inductionHypothesis behind
          exact ⟨first, later, middle, same, .other flat walk, behind⟩
      | stray opens behind =>
          obtain ⟨first, later, middle, rfl, walk, behind⟩ := inductionHypothesis behind
          exact ⟨_ :: first, later, middle, rfl, .stray opens walk, behind⟩

theorem raise (walk : Walk level tokens strays last) (more : Nat) :
    Walk (level + more) tokens strays (last + more) := by
  induction walk with
  | nil => exact .nil
  | opening opens _ inductionHypothesis =>
      rw [Nat.add_right_comm] at inductionHypothesis
      exact .opening opens inductionHypothesis
  | closing closes _ inductionHypothesis =>
      rw [Nat.add_right_comm]
      exact .closing closes inductionHypothesis
  | other flat _ inductionHypothesis => exact .other flat inductionHypothesis
  | stray opens _ inductionHypothesis => exact .stray opens inductionHypothesis

theorem depth_eq (walk : Walk level tokens strays last) :
    (level : Int) + depth tokens = last + strays.length := by
  induction walk with
  | nil => simp
  | opening opens _ inductionHypothesis | closing opens _ inductionHypothesis
  | other opens _ inductionHypothesis =>
      simp only [depth_cons, opens, Kind.weight] at *
      push_cast at *
      omega
  | stray opens _ inductionHypothesis =>
      simp only [depth_cons, opens, Kind.weight, List.length_cons] at *
      push_cast at *
      omega

theorem mem_strays (walk : Walk level tokens strays last) {span : Span} (stray : span ∈ strays) :
    ∃ token ∈ tokens, token.kind = .openBrace ∧ token.span = span := by
  induction walk with
  | nil => cases stray
  | opening _ _ inductionHypothesis | closing _ _ inductionHypothesis
  | other _ _ inductionHypothesis =>
      obtain ⟨token, listed, found⟩ := inductionHypothesis stray
      exact ⟨token, List.mem_cons_of_mem _ listed, found⟩
  | stray opens _ inductionHypothesis =>
      rcases List.mem_cons.mp stray with rfl | later
      · exact ⟨_, List.mem_cons_self, opens, rfl⟩
      · obtain ⟨token, listed, found⟩ := inductionHypothesis later
        exact ⟨token, List.mem_cons_of_mem _ listed, found⟩

theorem flat (flat : ∀ token ∈ tokens, token.kind.weight = 0) : Walk level tokens [] level := by
  induction tokens with
  | nil => exact .nil
  | cons token rest inductionHypothesis =>
      rw [List.forall_mem_cons] at flat
      exact .other flat.1 (inductionHypothesis flat.2)

/-- A walk that comes back and passes no stray is balanced. -/
theorem balanced (walk : Walk 0 tokens [] 0) : Balanced tokens where
  never := by
    rintro front ⟨rest, rfl⟩
    obtain ⟨first, later, middle, none, walk, -⟩ := walk.exists_append
    have counted := walk.depth_eq
    omega
  total := by simpa using walk.depth_eq

end Walk

/-- A run that never goes below its level can be walked along. -/
theorem exists_walk {tokens : List Token} (level : Nat)
    (never : ∀ front, front <+: tokens → 0 ≤ level + depth front) :
    ∃ last : Nat, Walk level tokens [] last := by
  induction tokens generalizing level with
  | nil => exact ⟨level, .nil⟩
  | cons token rest inductionHypothesis =>
      have behind (front : List Token) (starts : front <+: rest) :
          0 ≤ level + (token.kind.weight + depth front) := by
        simpa using never (token :: front) (List.cons_prefix_cons.mpr ⟨rfl, starts⟩)
      by_cases opens : token.kind = .openBrace
      · obtain ⟨last, walk⟩ := inductionHypothesis (level + 1) fun front starts => by
          have := behind front starts
          simp only [opens, Kind.weight] at this
          push_cast
          omega
        exact ⟨last, .opening opens walk⟩
      by_cases closes : token.kind = .closeBrace
      · have below := behind [] List.nil_prefix
        simp only [closes, Kind.weight, depth_nil] at below
        obtain ⟨under, rfl⟩ : ∃ under, level = under + 1 := ⟨level - 1, by omega⟩
        obtain ⟨last, walk⟩ := inductionHypothesis under fun front starts => by
          have := behind front starts
          simp only [closes, Kind.weight] at this
          push_cast at this
          omega
        exact ⟨last, .closing closes walk⟩
      · have flat := Kind.weight_eq_zero opens closes
        obtain ⟨last, walk⟩ := inductionHypothesis level fun front starts => by
          have := behind front starts
          omega
        exact ⟨last, .other flat walk⟩

theorem Balanced.walk {tokens : List Token} (balanced : Balanced tokens) : Walk 0 tokens [] 0 := by
  obtain ⟨last, walk⟩ := exists_walk 0 fun front starts => by
    have := balanced.never front starts
    omega
  have counted := walk.depth_eq
  rw [balanced.total] at counted
  obtain rfl : last = 0 := by simpa using counted.symm
  exact walk

section Fences

variable {fence : Fence} {level : Nat} {tokens : List Token}

/-- A run that is read with its braces counted is walked along, and unless it goes on to the end of
the text it is left at the level where it was entered. -/
theorem Fence.walk_split (fence : Fence) (counts : fence.step = Fence.braceDepth)
    (ends : .closeBrace ∈ fence.stops) (level : Nat) (tokens : List Token) :
    ∃ last, Walk level (fence.split level tokens).1 [] last ∧
      (last = 0 ∨ (fence.split level tokens).2 = []) := by
  induction tokens generalizing level with
  | nil => exact ⟨level, .nil, .inr rfl⟩
  | cons token rest inductionHypothesis =>
      rw [Fence.split]
      split
      case isTrue stops => exact ⟨0, stops.1 ▸ .nil, .inl rfl⟩
      case isFalse goesOn =>
        obtain ⟨last, walk, left⟩ := inductionHypothesis (fence.step level token.kind)
        refine ⟨last, ?_, left⟩
        rw [counts] at walk
        by_cases opens : token.kind = .openBrace
        · rw [opens] at walk
          rw [counts, opens]
          exact .opening opens walk
        by_cases closes : token.kind = .closeBrace
        · rw [closes] at walk goesOn
          obtain ⟨under, rfl⟩ : ∃ under, level = under + 1 :=
            Nat.exists_eq_succ_of_ne_zero fun zero => goesOn ⟨zero, ends⟩
          rw [counts, closes]
          exact .closing closes walk
        · have flat : Fence.braceDepth level token.kind = level := by
            revert opens closes
            cases token.kind <;> simp [Fence.braceDepth]
          rw [flat] at walk
          rw [counts, flat]
          exact .other (Kind.weight_eq_zero opens closes) walk

/-- The fence of a declaration. -/
def Fence.ofDeclaration : Fence :=
  ⟨[.closeBrace, .semicolon], Fence.braceDepth, by decide, fun _ => rfl⟩

theorem Fence.splitDeclaration_eq (depth : Nat) (tokens : List Token) :
    Cursor.splitDeclaration depth tokens = Fence.ofDeclaration.split depth tokens := by
  induction tokens generalizing depth with
  | nil => rfl
  | cons token rest inductionHypothesis =>
      simp only [Cursor.splitDeclaration, Fence.split, inductionHypothesis, Fence.ofDeclaration]
      cases kind : token.kind <;> cases depth <;> simp [Fence.braceDepth]

end Fences

end ComponentStyles
