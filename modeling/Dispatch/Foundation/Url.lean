import Mathlib.Data.List.DropRight

/-! # URLs

The parser of the URL Standard for URLs with an authority, and for references
that begin with a slash.
-/

namespace Dispatch

structure Url (Authority : Type) where
  scheme : List Char
  authority : Authority
  path : List (List Char)
  query : Option (List Char)
  deriving DecidableEq

namespace Url

/-! ## Characters -/

-- What holds of the characters of a text is decided along the text, never by
-- going through all characters.
instance decidableForallMem (text : List Char) (holds : Char → Prop)
    [DecidablePred holds] : Decidable (∀ char ∈ text, holds char) :=
  List.decidableBAll holds text

instance decidableForallMemOption (first : Option Char) (holds : Char → Prop)
    [DecidablePred holds] : Decidable (∀ char ∈ first, holds char) :=
  Option.decidableForallMem first

def isTabOrNewline (char : Char) : Bool :=
  char = '\t' || char = '\n' || char = '\r'

def isControlOrSpace (char : Char) : Bool :=
  char.toNat ≤ 0x20

def isSchemeChar (char : Char) : Bool :=
  char.isAlphanum || char = '+' || char = '-' || char = '.'

def hexDigit (value : Nat) : Char :=
  if value < 10 then Char.ofNat ('0'.toNat + value)
  else Char.ofNat ('A'.toNat + (value - 10))

def percentEncodeByte (byte : UInt8) : List Char :=
  ['%', hexDigit (byte.toNat / 16), hexDigit (byte.toNat % 16)]

def percentEncode (encoded : Char → Bool) (char : Char) : List Char :=
  if encoded char then
    (String.utf8EncodeChar char).flatMap percentEncodeByte
  else [char]

def isControl (char : Char) : Bool :=
  char.toNat ≤ 0x1f || 0x7e < char.toNat

def inPathSet (char : Char) : Bool :=
  isControl char || char.toNat ∈
    [0x20, 0x22, 0x23, 0x3c, 0x3e, 0x3f, 0x5e, 0x60, 0x7b, 0x7d]

def inQuerySet (special : Bool) (char : Char) : Bool :=
  isControl char || char.toNat ∈ [0x20, 0x22, 0x23, 0x3c, 0x3e] ||
    special && char.toNat = 0x27

def isSlash (special : Bool) (char : Char) : Bool :=
  char = '/' || special && char = '\\'

theorem isSlash_true_of_isSlash {special : Bool} {char : Char}
    (slash : isSlash special char = true) : isSlash true char = true := by
  rw [isSlash, Bool.or_eq_true, Bool.and_eq_true] at slash ⊢
  exact slash.imp_right fun back => ⟨rfl, back.2⟩

/-! ## The parser -/

def clean (text : List Char) : List Char :=
  ((text.dropWhile isControlOrSpace).rdropWhile isControlOrSpace).filter
    fun char => !isTabOrNewline char

def splitScheme : List Char → Option (List Char × List Char)
  | [] => none
  | first :: rest =>
    if first.isAlpha then
      match rest.dropWhile isSchemeChar with
      | ':' :: after =>
        some ((first :: rest.takeWhile isSchemeChar).map Char.toLower,
          after)
      | _ => none
    else none

def isSpecial (scheme : List Char) : Bool :=
  scheme ∈ ["ftp", "http", "https", "ws", "wss"].map String.toList

def isSingleDot (segment : List Char) : Bool :=
  segment.map Char.toLower ∈ [".", "%2e"].map String.toList

def isDoubleDot (segment : List Char) : Bool :=
  segment.map Char.toLower ∈ ["..", ".%2e", "%2e.", "%2e%2e"].map String.toList

def push (path : List (List Char)) (segment : List Char) : List (List Char) :=
  if isDoubleDot segment then path.dropLast
  else if isSingleDot segment then path
  else path ++ [segment]

def finish (path : List (List Char)) (segment : List Char) :
    List (List Char) :=
  if isDoubleDot segment then path.dropLast ++ [[]]
  else if isSingleDot segment then path ++ [[]]
  else path ++ [segment]

def pathState (special : Bool) (path : List (List Char))
    (segment : List Char) : List Char → List (List Char) × List Char
  | [] => (finish path segment, [])
  | char :: rest =>
    if isSlash special char then pathState special (push path segment) [] rest
    else if char = '?' ∨ char = '#' then (finish path segment, char :: rest)
    else
      pathState special path (segment ++ percentEncode inPathSet char) rest

def queryState (special : Bool) : List Char → Option (List Char)
  | '?' :: rest =>
    some ((rest.takeWhile (· ≠ '#')).flatMap
      (percentEncode (inQuerySet special)))
  | _ => none

def pathStart (special : Bool) : List Char → List (List Char) × List Char
  | [] => if special then pathState special [] [] [] else ([], [])
  | char :: rest =>
    if isSlash special char then pathState special [] [] rest
    else if special then pathState special [] [] (char :: rest)
    else ([], char :: rest)

def inAuthority (special : Bool) (char : Char) : Bool :=
  !isSlash special char && char ≠ '?' && char ≠ '#'

section Parser

variable {Authority : Type}
    (readAuthority : List Char → List Char → Option Authority)

def authorityState (scheme text : List Char) : Option (Url Authority) := do
  let special := isSpecial scheme
  let authority ← readAuthority scheme (text.takeWhile (inAuthority special))
  let (path, rest) := pathStart special (text.dropWhile (inAuthority special))
  return { scheme, authority, path, query := queryState special rest }

/-- `new URL(text)` -/
def parse (text : List Char) : Option (Url Authority) := do
  let (scheme, rest) ← splitScheme (clean text)
  if scheme = "file".toList then none
  else if isSpecial scheme then
    authorityState readAuthority scheme (rest.dropWhile (isSlash true))
  else
    match rest with
    | '/' :: '/' :: rest => authorityState readAuthority scheme rest
    | _ => none

def resolve (base : Url Authority) (text : List Char) :
    Option (Url Authority) :=
  let special := isSpecial base.scheme
  match clean text with
  | '/' :: rest =>
    if rest.head?.any (isSlash special) then
      authorityState readAuthority base.scheme
        (if special then rest.dropWhile (isSlash true) else rest.drop 1)
    else
      let (path, rest) := pathState special [] [] rest
      some { base with path, query := queryState special rest }
  | _ => none

end Parser

/-! ## Cleaning -/

def Visible (text : List Char) : Prop :=
  (∀ char ∈ text.head?, isControlOrSpace char = false) ∧
    ∀ char ∈ text.getLast?, isControlOrSpace char = false

instance (text : List Char) : Decidable (Visible text) :=
  inferInstanceAs (Decidable (_ ∧ _))

theorem clean_of_visible {text : List Char} (visible : Visible text) :
    clean text = text.filter fun char => !isTabOrNewline char := by
  have first : text.dropWhile isControlOrSpace = text := by
    cases text with
    | nil => rfl
    | cons char rest =>
      have head := visible.1 char rfl
      rw [List.dropWhile_cons_of_neg (by rw [head]; exact Bool.false_ne_true)]
  have last : text.rdropWhile isControlOrSpace = text := by
    rw [List.rdropWhile_eq_self_iff]
    intro nonempty
    rw [visible.2 _ (List.getLast?_eq_getLast_of_ne_nil nonempty)]
    exact Bool.false_ne_true
  rw [clean, first, last]

/-! ## Paths -/

section Paths

variable {special : Bool}

def pathBefore (special : Bool) (path : List (List Char))
    (segment : List Char) : List Char → List (List Char)
  | [] => push path segment
  | char :: rest =>
    if isSlash special char then
      pathBefore special (push path segment) [] rest
    else
      pathBefore special path (segment ++ percentEncode inPathSet char) rest

theorem pathState_append {text : List Char}
    (plain : ∀ char ∈ text, char ≠ '?' ∧ char ≠ '#')
    (path : List (List Char)) (segment rest : List Char) :
    pathState special path segment (text ++ '/' :: rest) =
      pathState special (pathBefore special path segment text) [] rest := by
  induction text generalizing path segment with
  | nil => rfl
  | cons char text induction =>
    rcases List.forall_mem_cons.mp plain with ⟨other, plain⟩
    rw [List.cons_append, pathState, pathBefore]
    split
    · exact induction plain _ _
    · rw [if_neg (not_or.mpr other)]
      exact induction plain _ _

def staysWithin (special : Bool) (depth : Nat) (segment : List Char) :
    List Char → Bool
  | [] => !isDoubleDot segment || 0 < depth
  | char :: rest =>
    if isSlash special char then
      if isDoubleDot segment then
        0 < depth && staysWithin special (depth - 1) [] rest
      else if isSingleDot segment then staysWithin special depth [] rest
      else staysWithin special (depth + 1) [] rest
    else if char = '?' ∨ char = '#' then !isDoubleDot segment || 0 < depth
    else
      staysWithin special depth (segment ++ percentEncode inPathSet char) rest

theorem finish_append {above path : List (List Char)} {segment : List Char}
    (stays : (!isDoubleDot segment || 0 < path.length) = true) :
    finish (above ++ path) segment = above ++ finish path segment := by
  unfold finish
  split
  · next double =>
      rw [double] at stays
      have nonempty := List.ne_nil_of_length_pos (of_decide_eq_true stays)
      rw [List.dropLast_append_of_ne_nil nonempty, List.append_assoc]
  · split <;> rw [List.append_assoc]

theorem pathState_above (above : List (List Char)) {path : List (List Char)}
    {segment text : List Char}
    (stays : staysWithin special path.length segment text = true) :
    pathState special (above ++ path) segment text =
      (above ++ (pathState special path segment text).1,
        (pathState special path segment text).2) := by
  induction text generalizing path segment with
  | nil =>
    rw [pathState, pathState, finish_append stays]
  | cons char text induction =>
    rw [staysWithin] at stays
    rw [pathState, pathState]
    split
    · next slash =>
        rw [if_pos slash] at stays
        unfold push
        split
        · next double =>
            rw [if_pos double, Bool.and_eq_true] at stays
            rcases stays with ⟨positive, stays⟩
            have nonempty := List.ne_nil_of_length_pos
              (of_decide_eq_true positive)
            rw [List.dropLast_append_of_ne_nil nonempty]
            apply induction
            rw [List.length_dropLast]
            exact stays
        · next notDouble =>
            rw [if_neg notDouble] at stays
            split
            · next single =>
                rw [if_pos single] at stays
                exact induction stays
            · next notSingle =>
                rw [if_neg notSingle] at stays
                rw [List.append_assoc]
                apply induction
                rw [List.length_append]
                exact stays
    · next notSlash =>
        rw [if_neg notSlash] at stays
        split
        · next ends =>
            rw [if_pos ends] at stays
            rw [finish_append stays]
        · next goes =>
            rw [if_neg goes] at stays
            exact induction stays

end Paths

/-! ## Texts of URLs -/

def kept (char : Char) : Bool :=
  !isTabOrNewline char

def IsScheme : List Char → Prop
  | [] => False
  | first :: rest =>
    first.isAlpha = true ∧ ∀ char ∈ rest, isSchemeChar char = true

instance : (scheme : List Char) → Decidable (IsScheme scheme)
  | [] => inferInstanceAs (Decidable False)
  | _ :: _ => inferInstanceAs (Decidable (_ ∧ _))

theorem isControlOrSpace_eq_false {test : Char → Bool}
    (table : ∀ code : Fin 33, test (Char.ofNat code.val) = false) {char : Char}
    (holds : test char = true) : isControlOrSpace char = false := by
  by_contra control
  rw [Bool.not_eq_false, isControlOrSpace, decide_eq_true_eq] at control
  have fails := table ⟨char.toNat, by omega⟩
  rw [Char.ofNat_toNat, holds] at fails
  cases fails

theorem kept_of_visible {char : Char}
    (visible : isControlOrSpace char = false) : kept char = true := by
  by_contra removed
  rw [kept, Bool.not_eq_true', Bool.not_eq_false, isTabOrNewline,
    Bool.or_eq_true, Bool.or_eq_true, decide_eq_true_eq, decide_eq_true_eq,
    decide_eq_true_eq] at removed
  rcases removed with (rfl | rfl) | rfl <;> exact absurd visible (by decide)

theorem kept_of_isSchemeChar {char : Char} (valid : isSchemeChar char = true) :
    kept char = true :=
  kept_of_visible (isControlOrSpace_eq_false (by decide) valid)

theorem isSchemeChar_of_isAlpha {char : Char} (letter : char.isAlpha = true) :
    isSchemeChar char = true := by
  rw [isSchemeChar, Char.isAlphanum, letter]
  rfl

theorem isControlOrSpace_of_isAlpha {char : Char}
    (letter : char.isAlpha = true) : isControlOrSpace char = false :=
  isControlOrSpace_eq_false (by decide) letter

theorem IsScheme.isSchemeChar {scheme : List Char} (valid : IsScheme scheme) :
    ∀ char ∈ scheme, isSchemeChar char = true := by
  cases scheme with
  | nil => exact nofun
  | cons first rest =>
    exact List.forall_mem_cons.mpr
      ⟨isSchemeChar_of_isAlpha valid.1, valid.2⟩

theorem splitScheme_append {scheme : List Char} (valid : IsScheme scheme)
    (after : List Char) :
    splitScheme (scheme ++ ':' :: after) =
      some (scheme.map Char.toLower, after) := by
  cases scheme with
  | nil => cases valid
  | cons first rest =>
    have colon : isSchemeChar ':' = false := by decide
    rw [List.cons_append, splitScheme, if_pos valid.1,
      List.dropWhile_append_of_pos valid.2,
      List.dropWhile_cons_of_neg (by rw [colon]; exact Bool.false_ne_true),
      List.takeWhile_append_of_pos valid.2,
      List.takeWhile_cons_of_neg (by rw [colon]; exact Bool.false_ne_true),
      List.append_nil]
    rfl

theorem dropWhile_inAuthority (special : Bool) {after : List Char}
    (rooted : after = [] ∨ ∃ rest, after = '/' :: rest) :
    after.takeWhile (inAuthority special) = [] ∧
      after.dropWhile (inAuthority special) = after := by
  rcases rooted with rfl | ⟨rest, rfl⟩
  · exact ⟨rfl, rfl⟩
  · have outside : ¬ inAuthority special '/' = true := Bool.false_ne_true
    exact ⟨List.takeWhile_cons_of_neg outside,
      List.dropWhile_cons_of_neg outside⟩

structure Base {Authority : Type}
    (readAuthority : List Char → List Char → Option Authority) where
  scheme : List Char
  isScheme : IsScheme scheme
  notFile : scheme.map Char.toLower ≠ "file".toList
  authority : List Char
  nonempty : authority ≠ []
  within : ∀ char ∈ authority,
    inAuthority (isSpecial (scheme.map Char.toLower)) char = true
  untouched : ∀ char ∈ authority, kept char = true
  host : Authority
  reads : readAuthority (scheme.map Char.toLower) authority = some host
  path : List Char
  rooted : path = [] ∨ ∃ rest, path = '/' :: rest
  plain : ∀ char ∈ path, char ≠ '?' ∧ char ≠ '#'

namespace Base

variable {Authority : Type}
    {readAuthority : List Char → List Char → Option Authority}
    (base : Base readAuthority)

def special : Bool := isSpecial (base.scheme.map Char.toLower)

def text : List Char :=
  base.scheme ++ ':' :: '/' :: '/' :: (base.authority ++ base.path)

def segments : List (List Char) :=
  match base.path.filter kept with
  | [] => []
  | _ :: rest => pathBefore base.special [] [] rest

variable {base}

theorem filter_text (after : List Char) :
    (base.text ++ after).filter kept = base.scheme ++ ':' :: '/' :: '/' ::
      (base.authority ++ (base.path ++ after).filter kept) := by
  have scheme : base.scheme.filter kept = base.scheme :=
    List.filter_eq_self.mpr fun char member =>
      kept_of_isSchemeChar (base.isScheme.isSchemeChar char member)
  have authority : base.authority.filter kept = base.authority :=
    List.filter_eq_self.mpr base.untouched
  have colon : kept ':' = true := by decide
  have slash : kept '/' = true := by decide
  rw [text, List.append_assoc, List.filter_append, scheme, List.cons_append,
    List.cons_append, List.cons_append, List.filter_cons_of_pos colon,
    List.filter_cons_of_pos slash, List.filter_cons_of_pos slash,
    List.append_assoc, List.filter_append, authority]

theorem authorityState_append {after : List Char}
    (rooted : after = [] ∨ ∃ rest, after = '/' :: rest) :
    authorityState readAuthority (base.scheme.map Char.toLower)
        (base.authority ++ after) =
      some { scheme := base.scheme.map Char.toLower
             authority := base.host
             path := (pathStart base.special after).1
             query := queryState base.special
               (pathStart base.special after).2 } := by
  rcases dropWhile_inAuthority base.special rooted with ⟨taken, dropped⟩
  have within : ∀ char ∈ base.authority,
      inAuthority base.special char = true := base.within
  have name : (base.authority ++ after).takeWhile (inAuthority base.special) =
      base.authority := by
    rw [List.takeWhile_append_of_pos within, taken, List.append_nil]
  have rest : (base.authority ++ after).dropWhile (inAuthority base.special) =
      after := by
    rw [List.dropWhile_append_of_pos within, dropped]
  rw [authorityState, ← special, name, rest, base.reads]
  rfl

theorem clean_text_append {after : List Char}
    (visible : ∀ char ∈ (base.text ++ after).getLast?,
      isControlOrSpace char = false) :
    clean (base.text ++ after) = (base.text ++ after).filter kept := by
  refine clean_of_visible ⟨?_, visible⟩
  have valid := base.isScheme
  intro char first
  cases written : base.scheme with
  | nil =>
    rw [written] at valid
    cases valid
  | cons letter rest =>
    rw [text, written] at first
    rw [written] at valid
    cases first
    exact isControlOrSpace_of_isAlpha valid.1

theorem dropWhile_isSlash (special : base.special = true)
    (after : List Char) :
    ('/' :: '/' :: (base.authority ++ after)).dropWhile (isSlash true) =
      base.authority ++ after := by
  rw [List.dropWhile_cons_of_pos rfl, List.dropWhile_cons_of_pos rfl]
  cases written : base.authority with
  | nil => exact absurd written base.nonempty
  | cons char rest =>
    have member : char ∈ base.authority := by
      rw [written]
      exact List.mem_cons_self
    have outside : inAuthority base.special char = true :=
      base.within char member
    rw [special, inAuthority, Bool.and_eq_true, Bool.and_eq_true,
      Bool.not_eq_true'] at outside
    refine List.dropWhile_cons_of_neg ?_
    rw [outside.1.1]
    exact Bool.false_ne_true

theorem parse_append {after : List Char}
    (rooted : base.path ++ after = [] ∨
      ∃ rest, base.path ++ after = '/' :: rest)
    (visible : ∀ char ∈ (base.text ++ after).getLast?,
      isControlOrSpace char = false) :
    parse readAuthority (base.text ++ after) =
      some { scheme := base.scheme.map Char.toLower
             authority := base.host
             path := (pathStart base.special
               ((base.path ++ after).filter kept)).1
             query := queryState base.special (pathStart base.special
               ((base.path ++ after).filter kept)).2 } := by
  have begins : (base.path ++ after).filter kept = [] ∨
      ∃ rest, (base.path ++ after).filter kept = '/' :: rest := by
    have slash : kept '/' = true := rfl
    rcases rooted with empty | ⟨rest, whole⟩
    · exact .inl (by rw [empty]; rfl)
    · exact .inr ⟨_, by rw [whole, List.filter_cons_of_pos slash]⟩
  rw [parse, base.clean_text_append visible, filter_text,
    splitScheme_append base.isScheme, Option.bind_eq_bind, Option.bind_some]
  dsimp only
  rw [if_neg base.notFile]
  split
  · next special =>
      rw [base.dropWhile_isSlash special, authorityState_append begins]
  · exact authorityState_append begins

theorem pathStart_append (body : List Char) :
    pathStart base.special ((base.path ++ '/' :: body).filter kept) =
      pathState base.special base.segments [] (body.filter kept) := by
  have slash : kept '/' = true := rfl
  rw [List.filter_append, List.filter_cons_of_pos slash, segments]
  rcases base.rooted with empty | ⟨rest, written⟩
  · rw [empty]
    rfl
  · have plain : ∀ char ∈ rest.filter kept, char ≠ '?' ∧ char ≠ '#' := by
      intro char member
      apply base.plain
      rw [written]
      exact List.mem_cons_of_mem _ (List.mem_of_mem_filter member)
    rw [written, List.filter_cons_of_pos slash]
    exact pathState_append plain [] [] (body.filter kept)

end Base

end Url

end Dispatch
