/-! # Wildcards inside one segment

A segment pattern is read from the left, one token at a time: `*`, `?`, a class in brackets, an
escaped character, or a character that stands for itself. `takeOne` says what one character of the
text does to the token in front; `matchSegment` puts the tokens in sequence and goes back to the
last `*` only. A `[` whose class never closes stands for itself.
-/
namespace BlobFiles.Glob

/-- The first character of a class member, and what follows it: `\` makes the next one plain. -/
def memberStart (c : Char) : List Char → Char × List Char
  | [] => (c, [])
  | d :: rest => if c = '\\' then (d, rest) else (c, d :: rest)

theorem memberStart_length_le (c : Char) (rest : List Char) :
    (memberStart c rest).2.length ≤ rest.length := by
  cases rest with
  | nil => simp [memberStart]
  | cons d rest => simp only [memberStart]; split <;> simp

/-- Reads the members of a class up to its `]`, and says whether one of them holds `c` and what
follows the class. A `]` in first place is a member. -/
def takeMembers (c : Char) (matched first : Bool) : List Char → Option (Bool × List Char)
  | [] => none
  | m :: rest =>
    if m = ']' && !first then some (matched, rest)
    else
      let lo := (memberStart m rest).1
      match _h : (memberStart m rest).2 with
      | '-' :: hi :: rest' =>
        if hi = ']' then takeMembers c (matched || lo = c) false ('-' :: hi :: rest')
        else takeMembers c (matched || (lo ≤ c && c ≤ hi)) false rest'
      | rest' => takeMembers c (matched || lo = c) false rest'
termination_by cs => cs.length
decreasing_by
  all_goals
    have := memberStart_length_le m rest
    simp_all
    try omega

/-- Reads a class behind its `[`; `none` when it never closes. -/
def takeClass (c : Char) : List Char → Option (Bool × List Char)
  | [] => none
  | m :: rest =>
    if m = '!' || m = '^' then (takeMembers c false true rest).map fun r => (!r.1, r.2)
    else takeMembers c false true (m :: rest)

/-- The pattern behind its first token, when that token takes `c`. A `*` is no such token. -/
def takeOne (c : Char) : List Char → Option (List Char)
  | [] => none
  | '?' :: rest => some rest
  | '\\' :: d :: rest => if d = c then some rest else none
  | '[' :: rest =>
    match takeClass c rest with
    | some (accepted, rest') => if accepted then some rest' else none
    | none => if c = '[' then some rest else none
  | d :: rest => if d = c then some rest else none

theorem takeMembers_length_lt {c : Char} {matched first : Bool} {cs : List Char}
    {r : Bool × List Char} (h : takeMembers c matched first cs = some r) :
    r.2.length < cs.length := by
  fun_induction takeMembers c matched first cs with
  | case1 => simp at h
  | case2 matched first m rest hm => simp at h; subst h; simp
  | case3 matched first m rest hm lo rest' hs ih =>
    have := memberStart_length_le m rest
    have := ih h
    simp_all
    omega
  | case4 matched first m rest hm lo hi rest' hs hne ih =>
    have := memberStart_length_le m rest
    have := ih h
    simp_all
    omega
  | case5 matched first m rest hm lo hs ih =>
    have := memberStart_length_le m rest
    have := ih h
    simp_all
    omega

theorem takeClass_length_lt {c : Char} {cs : List Char} {r : Bool × List Char}
    (h : takeClass c cs = some r) : r.2.length < cs.length := by
  cases cs with
  | nil => simp [takeClass] at h
  | cons m rest =>
    simp only [takeClass] at h
    split at h
    · obtain ⟨s, hs, rfl⟩ := Option.map_eq_some_iff.1 h
      have := takeMembers_length_lt hs
      simp only [List.length_cons]
      omega
    · exact takeMembers_length_lt h

theorem takeOne_length_lt {c : Char} {pattern rest : List Char}
    (h : takeOne c pattern = some rest) : rest.length < pattern.length := by
  revert h
  unfold takeOne
  split
  · simp
  · rintro ⟨rfl⟩; simp
  · split
    · rintro ⟨rfl⟩; simp only [List.length_cons]; omega
    · simp
  · split
    · rename_i rest' hc
      have := takeClass_length_lt hc
      split
      · rintro ⟨rfl⟩; simp at this ⊢; omega
      · simp
    · split
      · rintro ⟨rfl⟩; simp
      · simp
  · split
    · rintro ⟨rfl⟩; simp
    · simp

/-- How far a pattern without going back gets in a text. -/
inductive Progress where
  /-- A `*` comes next, with this text and this pattern behind it. -/
  | star (text pattern : List Char)
  /-- The text is used up, and the pattern is too or is not. -/
  | ended (matched : Bool)
  /-- The next token refuses the next character. -/
  | stuck

def advance : List Char → List Char → Progress
  | [], pattern => .ended (pattern.all (· = '*'))
  | c :: text, pattern =>
    match pattern with
    | '*' :: rest => .star (c :: text) rest
    | _ =>
      match takeOne c pattern with
      | some rest => advance text rest
      | none => .stuck

theorem length_lt_of_advance_star {text pattern text' pattern' : List Char}
    (h : advance text pattern = .star text' pattern') : pattern'.length < pattern.length := by
  induction text generalizing pattern with
  | nil => simp [advance] at h
  | cons c text ih =>
    unfold advance at h
    split at h
    · simp only [Progress.star.injEq] at h
      simp [h.2]
    · split at h
      · rename_i rest hr
        have := ih h
        have := takeOne_length_lt hr
        omega
      · simp at h

/-- Whether the pattern behind a `*` matches the rest of the text that the `*` leaves over. -/
def matchAfterStar (text pattern : List Char) : Bool :=
  match _h : advance text pattern with
  | .ended matched => matched
  | .star text' pattern' => matchAfterStar text' pattern'
  | .stuck =>
    match text with
    | [] => false
    | _ :: text' => matchAfterStar text' pattern
termination_by (pattern.length, text.length)
decreasing_by
  · exact Prod.Lex.left _ _ (length_lt_of_advance_star _h)
  · exact Prod.Lex.right _ (by simp)

def matchSegment (pattern text : List Char) : Bool :=
  match advance text pattern with
  | .ended matched => matched
  | .star text' pattern' => matchAfterStar text' pattern'
  | .stuck => false

end BlobFiles.Glob
