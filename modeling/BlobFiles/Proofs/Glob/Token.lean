import BlobFiles.Proofs.Glob.Literal

/-! # The tokens of a segment pattern

A segment pattern is cut into tokens from the left, and where a token ends depends on the pattern
alone. The rules of the cut are relations here: `CharClass` reads a class behind its `[`,
`FirstToken` the token in front of a pattern, and `Tokens` all of them. There is exactly one way to
cut a pattern. The matcher does not cut it first, it asks for each token whether it takes a given
character; `takeOne_eq_some_iff` says that its answers are those of the tokens.
-/
namespace BlobFiles.Glob

/-! ## Classes -/

/-- The character in front of a class member, and what follows it: `\` makes the next one plain. -/
inductive MemberChar : List Char → Char → List Char → Prop
  | plain {c : Char} {rest : List Char} (h : c ≠ '\\') : MemberChar (c :: rest) c rest
  | escaped {c : Char} {rest : List Char} : MemberChar ('\\' :: c :: rest) c rest

/-- Whether a `-` and the upper end of a range come next. -/
def OpensRange (cs : List Char) : Prop := ∃ hi rest, cs = '-' :: hi :: rest ∧ hi ≠ ']'

/-- The member in front of some text, by its lowest and its highest character. -/
inductive FirstMember : List Char → Char × Char → List Char → Prop
  | one {cs rest : List Char} {c : Char} (hChar : MemberChar cs c rest)
      (hOne : ¬ OpensRange rest) : FirstMember cs (c, c) rest
  | range {cs rest : List Char} {lo hi : Char} (hChar : MemberChar cs lo ('-' :: hi :: rest))
      (hEnd : hi ≠ ']') : FirstMember cs (lo, hi) rest

/-- The members up to the `]` that closes the class. A `]` in front of all others is a member. -/
inductive Members : Bool → List Char → List (Char × Char) → List Char → Prop
  | close {rest : List Char} : Members false (']' :: rest) [] rest
  | member {first : Bool} {cs rest rest' : List Char} {m : Char × Char}
      {members : List (Char × Char)} (hOpen : first = true ∨ cs.head? ≠ some ']')
      (hMember : FirstMember cs m rest) (hMembers : Members false rest members rest') :
      Members first cs (m :: members) rest'

def isNegation (c : Char) : Bool := c = '!' || c = '^'

inductive CharClass : List Char → Bool → List (Char × Char) → List Char → Prop
  | negated {sign : Char} {cs rest : List Char} {members : List (Char × Char)}
      (hSign : isNegation sign = true) (hMembers : Members true cs members rest) :
      CharClass (sign :: cs) true members rest
  | plain {c : Char} {cs rest : List Char} {members : List (Char × Char)}
      (hSign : isNegation c = false) (hMembers : Members true (c :: cs) members rest) :
      CharClass (c :: cs) false members rest

/-- Whether one of the ranges holds `c`. -/
def covers (members : List (Char × Char)) (c : Char) : Bool :=
  members.any fun m => m.1 ≤ c && c ≤ m.2

/-! ## Tokens -/

inductive Token where
  | star
  | any
  | plain (c : Char)
  | oneOf (negated : Bool) (members : List (Char × Char))
  deriving DecidableEq, Repr

/-- The texts that a token stands for. -/
def Token.Takes : Token → List Char → Prop
  | star, _ => True
  | any, block => ∃ c, block = [c]
  | plain c, block => block = [c]
  | oneOf negated members, block => ∃ c, block = [c] ∧ covers members c = !negated

inductive FirstToken : List Char → Token → List Char → Prop
  | star {rest : List Char} : FirstToken ('*' :: rest) .star rest
  | any {rest : List Char} : FirstToken ('?' :: rest) .any rest
  | escaped {c : Char} {rest : List Char} : FirstToken ('\\' :: c :: rest) (.plain c) rest
  | backslash : FirstToken ['\\'] (.plain '\\') []
  | oneOf {cs rest : List Char} {negated : Bool} {members : List (Char × Char)}
      (hClass : CharClass cs negated members rest) :
      FirstToken ('[' :: cs) (.oneOf negated members) rest
  /-- A class that is never closed is none. -/
  | bracket {cs : List Char} (hOpen : ∀ negated members rest, ¬ CharClass cs negated members rest) :
      FirstToken ('[' :: cs) (.plain '[') cs
  | plain {c : Char} {rest : List Char} (h : isWildcard c = false) :
      FirstToken (c :: rest) (.plain c) rest

inductive Tokens : List Char → List Token → Prop
  | nil : Tokens [] []
  | cons {pattern rest : List Char} {token : Token} {tokens : List Token}
      (hFirst : FirstToken pattern token rest) (hRest : Tokens rest tokens) :
      Tokens pattern (token :: tokens)

/-! ## A class as the matcher reads it -/

theorem memberStart_of_memberChar {m c : Char} {cs rest : List Char}
    (h : MemberChar (m :: cs) c rest) : memberStart m cs = (c, rest) := by
  cases h with
  | plain h => cases cs <;> simp [memberStart, h]
  | escaped => rfl

theorem memberChar_of_ne_nil {m : Char} {cs : List Char} (h : (memberStart m cs).2 ≠ []) :
    MemberChar (m :: cs) (memberStart m cs).1 (memberStart m cs).2 := by
  cases cs with
  | nil => exact absurd rfl h
  | cons d rest =>
    simp only [memberStart]
    split
    · rename_i hEscape
      subst hEscape
      exact .escaped
    · rename_i hPlain
      exact .plain hPlain

theorem holds_self_iff {lo c : Char} : (lo ≤ c && c ≤ lo) = decide (lo = c) := by
  rw [Bool.eq_iff_iff, Bool.and_eq_true, decide_eq_true_eq, decide_eq_true_eq, decide_eq_true_eq]
  constructor
  · rintro ⟨hLow, hHigh⟩
    exact Char.le_antisymm hLow hHigh
  · rintro rfl
    exact ⟨Char.le_refl lo, Char.le_refl lo⟩

theorem FirstMember.ne_nil {cs rest : List Char} {member : Char × Char}
    (h : FirstMember cs member rest) : cs ≠ [] := by
  rintro rfl
  cases h <;> contradiction

theorem Members.ne_nil {first : Bool} {cs rest : List Char} {members : List (Char × Char)}
    (h : Members first cs members rest) : cs ≠ [] := by
  cases h with
  | close => exact List.cons_ne_nil _ _
  | member _ hMember _ => exact hMember.ne_nil

theorem takeMembers_of_firstMember {first : Bool} {cs rest : List Char} {member : Char × Char}
    (hOpen : first = true ∨ cs.head? ≠ some ']') (h : FirstMember cs member rest) (c : Char)
    (matched : Bool) :
    takeMembers c matched first cs =
      takeMembers c (matched || (member.1 ≤ c && c ≤ member.2)) false rest := by
  cases cs with
  | nil => exact absurd rfl h.ne_nil
  | cons m cs =>
    have hNoClose : (decide (m = ']') && !first) = false := by
      rcases hOpen with rfl | hHead
      · exact Bool.and_false _
      · have hNe : m ≠ ']' := fun hEq => hHead (congrArg some hEq)
        rw [decide_eq_false hNe, Bool.false_and]
    rw [takeMembers, hNoClose]
    simp only [Bool.false_eq_true, if_false]
    cases h with
    | one hChar hOne =>
      rw [memberStart_of_memberChar hChar, holds_self_iff]
      split
      · rename_i hi rest' hRange
        change rest = '-' :: hi :: rest' at hRange
        by_cases hEnd : hi = ']'
        · rw [if_pos hEnd, hRange]
        · exact absurd ⟨hi, rest', hRange, hEnd⟩ hOne
      · rfl
    | range hChar hEnd =>
      rw [memberStart_of_memberChar hChar]
      simp only [if_neg hEnd]

theorem takeMembers_of_members {first : Bool} {cs rest : List Char}
    {members : List (Char × Char)} (h : Members first cs members rest) (c : Char)
    (matched : Bool) :
    takeMembers c matched first cs = some (matched || covers members c, rest) := by
  induction h generalizing matched with
  | close => simp [takeMembers, covers]
  | member hOpen hMember hMembers ih =>
    rw [takeMembers_of_firstMember hOpen hMember, ih, Bool.or_assoc]
    rfl

theorem open_of_not_closed {m : Char} {first : Bool} {cs : List Char}
    (h : ¬(decide (m = ']') && !first) = true) : first = true ∨ (m :: cs).head? ≠ some ']' := by
  cases first with
  | true => exact .inl rfl
  | false =>
    right
    intro hHead
    cases hHead
    exact h rfl

theorem members_of_takeMembers {c : Char} {matched first : Bool} {cs : List Char}
    {r : Bool × List Char} (h : takeMembers c matched first cs = some r) :
    ∃ members, Members first cs members r.2 := by
  fun_induction takeMembers c matched first cs with
  | case1 => cases h
  | case2 matched first m rest hClosed =>
    cases h
    rw [Bool.and_eq_true, decide_eq_true_eq, Bool.not_eq_true'] at hClosed
    obtain ⟨rfl, rfl⟩ := hClosed
    exact ⟨[], .close⟩
  | case3 matched first m rest hOpen lo rest' hRange ih =>
    obtain ⟨members, hMembers⟩ := ih h
    have hChar := memberChar_of_ne_nil (hRange ▸ List.cons_ne_nil _ _)
    rw [hRange] at hChar
    have hOne : ¬ OpensRange ('-' :: ']' :: rest') := by
      rintro ⟨hi, _, hCons, hEnd⟩
      cases hCons
      exact hEnd rfl
    exact ⟨_, .member (open_of_not_closed hOpen) (.one hChar hOne) hMembers⟩
  | case4 matched first m rest hOpen lo hi rest' hRange hEnd ih =>
    obtain ⟨members, hMembers⟩ := ih h
    have hChar := memberChar_of_ne_nil (hRange ▸ List.cons_ne_nil _ _)
    rw [hRange] at hChar
    exact ⟨_, .member (open_of_not_closed hOpen) (.range hChar hEnd) hMembers⟩
  | case5 matched first m rest hOpen lo hOne ih =>
    obtain ⟨members, hMembers⟩ := ih h
    have hChar := memberChar_of_ne_nil hMembers.ne_nil
    have hNoRange : ¬ OpensRange (memberStart m rest).2 := by
      rintro ⟨hi, rest', hRange, -⟩
      exact hOne hi rest' hRange
    exact ⟨_, .member (open_of_not_closed hOpen) (.one hChar hNoRange) hMembers⟩

theorem takeClass_cons (c m : Char) (cs : List Char) :
    takeClass c (m :: cs) =
      if isNegation m then (takeMembers c false true cs).map fun r => (!r.1, r.2)
      else takeMembers c false true (m :: cs) := rfl

theorem takeClass_of_charClass {cs rest : List Char} {negated : Bool}
    {members : List (Char × Char)} (h : CharClass cs negated members rest) (c : Char) :
    takeClass c cs = some (covers members c == !negated, rest) := by
  cases h with
  | negated hSign hMembers =>
    rw [takeClass_cons, if_pos hSign, takeMembers_of_members hMembers]
    simp
  | plain hSign hMembers =>
    rw [takeClass_cons, hSign, takeMembers_of_members hMembers]
    simp

theorem charClass_of_takeClass {c : Char} {cs : List Char} {r : Bool × List Char}
    (h : takeClass c cs = some r) : ∃ negated members, CharClass cs negated members r.2 := by
  cases cs with
  | nil => cases h
  | cons m cs =>
    rw [takeClass_cons] at h
    cases hSign : isNegation m with
    | true =>
      rw [if_pos hSign] at h
      obtain ⟨read, hRead, rfl⟩ := Option.map_eq_some_iff.mp h
      obtain ⟨members, hMembers⟩ := members_of_takeMembers hRead
      exact ⟨true, members, .negated hSign hMembers⟩
    | false =>
      rw [hSign] at h
      obtain ⟨members, hMembers⟩ := members_of_takeMembers h
      exact ⟨false, members, .plain hSign hMembers⟩

theorem takeClass_eq_none_iff {c : Char} {cs : List Char} :
    takeClass c cs = none ↔ ∀ negated members rest, ¬ CharClass cs negated members rest := by
  constructor
  · intro h negated members rest hClass
    rw [takeClass_of_charClass hClass] at h
    cases h
  · intro hOpen
    cases h : takeClass c cs with
    | none => rfl
    | some r =>
      obtain ⟨negated, members, hClass⟩ := charClass_of_takeClass h
      exact absurd hClass (hOpen negated members r.2)

theorem Token.takes_plain_iff {c d : Char} : (plain d).Takes [c] ↔ d = c := by
  simp only [Takes, List.cons.injEq, and_true, eq_comm]

theorem Token.takes_oneOf_iff {c : Char} {negated : Bool} {members : List (Char × Char)} :
    (oneOf negated members).Takes [c] ↔ (covers members c == !negated) = true := by
  simp only [Takes, List.cons.injEq, and_true, exists_eq_left', beq_iff_eq]

theorem ite_some_eq_some_iff {P : Prop} [Decidable P] {rest rest' : List Char} :
    (if P then some rest else none) = some rest' ↔ rest' = rest ∧ P := by
  rw [Option.ite_none_right_eq_some, Option.some_inj, and_comm, eq_comm]

theorem takeOne_eq_some_iff {pattern rest rest' : List Char} {token : Token}
    (h : FirstToken pattern token rest) (hStar : token ≠ .star) {c : Char} :
    takeOne c pattern = some rest' ↔ rest' = rest ∧ token.Takes [c] := by
  cases h with
  | star => exact absurd rfl hStar
  | any =>
    have hAny : Token.any.Takes [c] := ⟨c, rfl⟩
    rw [takeOne, Option.some_inj, eq_comm, and_iff_left hAny]
  | escaped => rw [takeOne, ite_some_eq_some_iff, Token.takes_plain_iff]
  | backslash =>
    have hTake : takeOne c ['\\'] = if '\\' = c then some [] else none := rfl
    rw [hTake, ite_some_eq_some_iff, Token.takes_plain_iff]
  | oneOf hClass =>
    simp only [takeOne, takeClass_of_charClass hClass, ite_some_eq_some_iff,
      Token.takes_oneOf_iff]
  | bracket hOpen =>
    have hNone : takeClass c rest = none := takeClass_eq_none_iff.mpr hOpen
    have hTake : takeOne c ('[' :: rest) = if c = '[' then some rest else none := by
      rw [takeOne, hNone]
    rw [hTake, ite_some_eq_some_iff, Token.takes_plain_iff, eq_comm (a := c)]
  | plain hPlain => rw [takeOne_of_literal hPlain, ite_some_eq_some_iff, Token.takes_plain_iff]

/-! ## One way to cut -/

theorem MemberChar.unique {cs rest rest' : List Char} {c c' : Char} (h : MemberChar cs c rest)
    (h' : MemberChar cs c' rest') : c = c' ∧ rest = rest' := by
  cases h with
  | plain hPlain =>
    cases h' with
    | plain _ => exact ⟨rfl, rfl⟩
    | escaped => exact absurd rfl hPlain
  | escaped =>
    cases h' with
    | plain hPlain => exact absurd rfl hPlain
    | escaped => exact ⟨rfl, rfl⟩

theorem FirstMember.unique {cs rest rest' : List Char} {member member' : Char × Char}
    (h : FirstMember cs member rest) (h' : FirstMember cs member' rest') :
    member = member' ∧ rest = rest' := by
  cases h with
  | one hChar hOne =>
    cases h' with
    | one hChar' _ =>
      obtain ⟨rfl, rfl⟩ := hChar.unique hChar'
      exact ⟨rfl, rfl⟩
    | range hChar' hEnd =>
      obtain ⟨-, rfl⟩ := hChar.unique hChar'
      exact absurd ⟨_, _, rfl, hEnd⟩ hOne
  | range hChar hEnd =>
    cases h' with
    | one hChar' hOne =>
      obtain ⟨-, rfl⟩ := hChar.unique hChar'
      exact absurd ⟨_, _, rfl, hEnd⟩ hOne
    | range hChar' _ =>
      obtain ⟨rfl, hRest⟩ := hChar.unique hChar'
      cases hRest
      exact ⟨rfl, rfl⟩

theorem Members.unique {first : Bool} {cs rest rest' : List Char}
    {members members' : List (Char × Char)} (h : Members first cs members rest)
    (h' : Members first cs members' rest') : members = members' ∧ rest = rest' := by
  induction h generalizing members' rest' with
  | close =>
    cases h' with
    | close => exact ⟨rfl, rfl⟩
    | member hOpen _ _ => simp at hOpen
  | member hOpen hMember _ ih =>
    cases h' with
    | close => simp at hOpen
    | member _ hMember' hMembers' =>
      obtain ⟨rfl, rfl⟩ := hMember.unique hMember'
      obtain ⟨rfl, rfl⟩ := ih hMembers'
      exact ⟨rfl, rfl⟩

theorem CharClass.unique {cs rest rest' : List Char} {negated negated' : Bool}
    {members members' : List (Char × Char)} (h : CharClass cs negated members rest)
    (h' : CharClass cs negated' members' rest') :
    negated = negated' ∧ members = members' ∧ rest = rest' := by
  cases h with
  | negated hSign hMembers =>
    cases h' with
    | negated _ hMembers' => exact ⟨rfl, hMembers.unique hMembers'⟩
    | plain hSign' _ => simp [hSign] at hSign'
  | plain hSign hMembers =>
    cases h' with
    | negated hSign' _ => simp [hSign] at hSign'
    | plain _ hMembers' => exact ⟨rfl, hMembers.unique hMembers'⟩

theorem FirstToken.ne_nil {pattern rest : List Char} {token : Token}
    (h : FirstToken pattern token rest) : pattern ≠ [] := by
  rintro rfl
  cases h

theorem FirstToken.unique {pattern rest rest' : List Char} {token token' : Token}
    (h : FirstToken pattern token rest) (h' : FirstToken pattern token' rest') :
    token = token' ∧ rest = rest' := by
  cases h with
  | star =>
    cases h' with
    | star => exact ⟨rfl, rfl⟩
    | plain h => cases h
  | any =>
    cases h' with
    | any => exact ⟨rfl, rfl⟩
    | plain h => cases h
  | escaped =>
    cases h' with
    | escaped => exact ⟨rfl, rfl⟩
    | plain h => cases h
  | backslash =>
    cases h' with
    | backslash => exact ⟨rfl, rfl⟩
    | plain h => cases h
  | oneOf hClass =>
    cases h' with
    | oneOf hClass' =>
      obtain ⟨rfl, rfl, rfl⟩ := hClass.unique hClass'
      exact ⟨rfl, rfl⟩
    | bracket hOpen => exact absurd hClass (hOpen _ _ _)
    | plain h => cases h
  | bracket hOpen =>
    cases h' with
    | oneOf hClass => exact absurd hClass (hOpen _ _ _)
    | bracket _ => exact ⟨rfl, rfl⟩
    | plain h => cases h
  | plain hPlain =>
    cases h' with
    | plain _ => exact ⟨rfl, rfl⟩
    | star | any | escaped | backslash | oneOf _ | bracket _ => cases hPlain

theorem Tokens.unique {pattern : List Char} {tokens tokens' : List Token}
    (h : Tokens pattern tokens) (h' : Tokens pattern tokens') : tokens = tokens' := by
  induction h generalizing tokens' with
  | nil =>
    cases h' with
    | nil => rfl
    | cons hFirst _ => exact absurd rfl hFirst.ne_nil
  | cons hFirst _ ih =>
    cases h' with
    | nil => exact absurd rfl hFirst.ne_nil
    | cons hFirst' hRest' =>
      obtain ⟨rfl, rfl⟩ := hFirst.unique hFirst'
      rw [ih hRest']

/-! ## What is left behind a reading -/

theorem MemberChar.suffix {cs rest : List Char} {c : Char} (h : MemberChar cs c rest) :
    rest <:+ cs := by
  cases h with
  | plain _ => exact List.suffix_cons _ _
  | escaped => exact (List.suffix_cons _ _).trans (List.suffix_cons _ _)

theorem FirstMember.suffix {cs rest : List Char} {member : Char × Char}
    (h : FirstMember cs member rest) : rest <:+ cs := by
  cases h with
  | one hChar _ => exact hChar.suffix
  | range hChar _ =>
    exact ((List.suffix_cons _ _).trans (List.suffix_cons _ _)).trans hChar.suffix

theorem Members.suffix {first : Bool} {cs rest : List Char} {members : List (Char × Char)}
    (h : Members first cs members rest) : rest <:+ cs := by
  induction h with
  | close => exact List.suffix_cons _ _
  | member _ hMember _ ih => exact ih.trans hMember.suffix

theorem CharClass.suffix {cs rest : List Char} {negated : Bool} {members : List (Char × Char)}
    (h : CharClass cs negated members rest) : rest <:+ cs := by
  cases h with
  | negated _ hMembers => exact hMembers.suffix.trans (List.suffix_cons _ _)
  | plain _ hMembers => exact hMembers.suffix

theorem FirstToken.suffix {pattern rest : List Char} {token : Token}
    (h : FirstToken pattern token rest) : rest <:+ pattern := by
  cases h with
  | star | any | backslash | bracket _ | plain _ => exact List.suffix_cons _ _
  | escaped => exact (List.suffix_cons _ _).trans (List.suffix_cons _ _)
  | oneOf hClass => exact hClass.suffix.trans (List.suffix_cons _ _)

theorem exists_firstToken (d : Char) (rest : List Char) :
    ∃ token rest', FirstToken (d :: rest) token rest' := by
  cases hWild : isWildcard d with
  | false => exact ⟨_, _, .plain hWild⟩
  | true =>
    simp only [isWildcard, Bool.or_eq_true, decide_eq_true_eq] at hWild
    rcases hWild with ((rfl | rfl) | rfl) | rfl
    · exact ⟨_, _, .star⟩
    · exact ⟨_, _, .any⟩
    · by_cases hClass : ∃ negated members rest', CharClass rest negated members rest'
      · obtain ⟨negated, members, rest', hClass⟩ := hClass
        exact ⟨_, _, .oneOf hClass⟩
      · simp only [not_exists] at hClass
        exact ⟨_, _, .bracket hClass⟩
    · cases rest with
      | nil => exact ⟨_, _, .backslash⟩
      | cons c rest => exact ⟨_, _, .escaped⟩

theorem FirstToken.length_lt {pattern rest : List Char} {token : Token}
    (h : FirstToken pattern token rest) : rest.length < pattern.length := by
  cases h with
  | oneOf hClass =>
    exact Nat.lt_succ_of_lt (takeClass_length_lt (takeClass_of_charClass hClass '['))
  | star | any | escaped | backslash | bracket _ | plain _ =>
    simp only [List.length_cons, List.length_nil]
    omega

theorem exists_tokens (pattern : List Char) : ∃ tokens, Tokens pattern tokens := by
  induction hLength : pattern.length using Nat.strongRecOn generalizing pattern with
  | ind length ih =>
    cases pattern with
    | nil => exact ⟨[], .nil⟩
    | cons d rest =>
      obtain ⟨token, rest', hFirst⟩ := exists_firstToken d rest
      obtain ⟨tokens, hRest⟩ := ih rest'.length (hLength ▸ hFirst.length_lt) rest' rfl
      exact ⟨token :: tokens, .cons hFirst hRest⟩

end BlobFiles.Glob
