import Gradebook.Text.Case
import Gradebook.Text.Columns.Table

/-!
# Columns of a terminal

How many columns a text takes.  A character by itself takes one column or two, or none.  Together
characters may take fewer: emoji that stand for one picture take its two columns, and letters that
some script joins into one take one.  A text is therefore read from its end, and each character is
counted by what stands after it.
-/

namespace Gradebook.Text

/-- The end of a picture that a joiner puts after another picture. -/
inductive Joined where
  | picture
  | keycap
  | flagLetter
  | evenFlagLetters
  | oddFlagLetters
  /-- A number of tags in letters in front of the closing tag. -/
  | tagLetters (n : Nat)
  /-- A number of tags in digits, the first of those that name a region. -/
  | tagDigits (n : Nat)
deriving DecidableEq, Repr

/-- The end of letters that a script joins into one. -/
inductive Ligature where
  | lamed
  | ya
  | vowelSignBeforeYa
  | tifinaghConsonant
  | tifinaghJoiner
  | lisuTone
  | orkhonI
  | khmerLetter
  | kiratVowelE
  | kiratVowelAi
deriving DecidableEq, Repr

/-- What stands after a character, as far as its columns depend on it. -/
inductive Follower where
  | other
  | lineFeed
  | skinTone
  | picture
  | flagLetter
  | flagLetters
  | joined (j : Joined)
  | alef
  /-- The end of a ligature; `joiner` tells that a joiner stands in front of it. -/
  | ligature (l : Ligature) (joiner : Bool)
deriving DecidableEq, Repr

/-- A sign that asks for how the character before it is shown. -/
inductive Selector where
  | none
  | text
  | picture
deriving DecidableEq, Repr

structure After where
  follower : Follower
  selector : Selector
deriving DecidableEq, Repr

namespace After

def of (f : Follower) : After := ⟨f, .none⟩

def nothing : After := of .other

/-- A selector for pictures in front of what follows; only letters and joined pictures are seen
through it. -/
def selectPicture (f : Follower) : After :=
  match f with
  | .alef | .ligature .. | .joined .picture | .joined .keycap => ⟨f, .picture⟩
  | _ => ⟨.other, .picture⟩

/-- A selector for text in front of what follows; only letters are seen through it. -/
def selectText (f : Follower) : After :=
  match f with
  | .alef | .ligature .. => ⟨f, .text⟩
  | _ => ⟨.other, .text⟩

end After

/-- Shows the character before it as text. -/
def textSelector : Char := '\uFE0E'

/-- Shows the character before it as a picture. -/
def pictureSelector : Char := '\uFE0F'

def zeroWidthJoiner : Char := '\u200D'

def isBetween (first last : Nat) (c : Char) : Bool :=
  first ≤ c.toNat && c.toNat ≤ last

def isFlagLetter : Char → Bool := isBetween 0x1F1E6 0x1F1FF

def isSkinTone : Char → Bool := isBetween 0x1F3FB 0x1F3FF

def isTagLetter : Char → Bool := isBetween 0xE0061 0xE007A

def isTagDigit : Char → Bool := isBetween 0xE0030 0xE0039

def isAlef (c : Char) : Bool :=
  inRanges [(0x622, 0x623), (0x625, 0x625), (0x627, 0x627), (0x671, 0x673), (0x675, 0x675),
    (0x773, 0x774), (0x870, 0x882)] c

def isLam (c : Char) : Bool :=
  inRanges [(0x644, 0x644), (0x6B5, 0x6B8), (0x76A, 0x76A), (0x8A6, 0x8A6), (0x8C7, 0x8C7)] c

def isTifinaghConsonant (c : Char) : Bool :=
  inRanges [(0x2D31, 0x2D65), (0x2D6F, 0x2D6F)] c

def isKhmerLetter (c : Char) : Bool :=
  inRanges [(0x1780, 0x1782), (0x1784, 0x1787), (0x1789, 0x178C), (0x178E, 0x1793),
    (0x1795, 0x1798), (0x179B, 0x179D), (0x17A0, 0x17A0), (0x17A2, 0x17A2), (0x17A7, 0x17A7),
    (0x17AB, 0x17AC), (0x17AF, 0x17AF)] c

/-- Marks that are ignored and so do not part the letters of a ligature. -/
def isIgnoredMark (c : Char) : Bool :=
  inRanges [(0x34F, 0x34F), (0x17B4, 0x17B5), (0x180B, 0x180D), (0x180F, 0x180F),
    (0xFE00, 0xFE0F), (0xE0100, 0xE01EF)] c

def ligatureOf? (c : Char) : Option Ligature :=
  if c = '\u05DC' then some .lamed
  else if c = '\u1A10' then some .ya
  else if isTifinaghConsonant c then some .tifinaghConsonant
  else if isBetween 0xA4FC 0xA4FD c then some .lisuTone
  else if c.toNat = 0x10C03 then some .orkhonI
  else if isKhmerLetter c then some .khmerLetter
  else if c.toNat = 0x16D67 then some .kiratVowelE
  else if c.toNat = 0x16D68 then some .kiratVowelAi
  else none

def columnsOf (c : Char) : Nat :=
  if c = '\u17D8' then 3
  else if inRanges zeroColumnRanges c then 0
  else if inRanges twoColumnRanges c then 2
  else 1

def followerOf (c : Char) : Follower :=
  if isFlagLetter c then .flagLetter
  else if isSkinTone c then .skinTone
  else if inRanges pictureRanges c then .picture
  else if isAlef c then .alef
  else
    match ligatureOf? c with
    | some l => .ligature l false
    | none => .other

/-- A character that nothing after it changes. -/
def countAlone (c : Char) : Int × After :=
  if c = textSelector then (0, .selectText .other)
  else if c = pictureSelector then (0, .selectPicture .other)
  else (columnsOf c, .of (followerOf c))

/-- A character in front of the end of a joined picture, if it belongs to the picture. -/
def countJoined? (c : Char) (j : Joined) : Option (Int × After) :=
  let still (j : Joined) : Option (Int × After) := some (0, .of (.joined j))
  match j with
  | .picture =>
    if c = '\u20E3' then still .keycap
    else if isFlagLetter c then some (1, .of (.joined .flagLetter))
    else if isSkinTone c then some (0, .of .skinTone)
    else if c.toNat = 0xE007F then still (.tagLetters 0)
    else if inRanges pictureRanges c then some (0, .of .picture)
    else none
  | .keycap => none
  | .flagLetter | .oddFlagLetters =>
    if isFlagLetter c then some (-1, .of (.joined .evenFlagLetters))
    else if j = .oddFlagLetters && c = zeroWidthJoiner then still .picture
    else none
  | .evenFlagLetters =>
    if isFlagLetter c then some (3, .of (.joined .oddFlagLetters))
    else if c = zeroWidthJoiner then still .picture
    else none
  | .tagLetters n =>
    if isTagLetter c && n < 6 then still (.tagLetters (n + 1))
    else if isTagDigit c && n < 5 then still (.tagDigits 1)
    else if c.toNat = 0x1F3F4 && 3 ≤ n then some (0, .of .picture)
    else none
  | .tagDigits n =>
    if isTagDigit c && n < 3 then still (.tagDigits (n + 1))
    else if c.toNat = 0x1F3F4 && n = 3 then some (0, .of .picture)
    else none

/-- A character in front of the end of a ligature, if it belongs to the ligature; `joiner` tells
that a joiner stands between them. -/
def countLigature? (c : Char) (l : Ligature) (joiner : Bool) : Option (Int × After) :=
  let still (l : Ligature) : Option (Int × After) := some (0, .of (.ligature l true))
  let complete : Option (Int × After) := some (0, .nothing)
  if c = zeroWidthJoiner then still l
  else if isIgnoredMark c then some (0, .of (.ligature l joiner))
  else
    match l, joiner with
    | .lamed, true => if c = '\u05D0' then complete else none
    | .khmerLetter, _ => if c = '\u17D2' then some (-1, .nothing) else none
    | .ya, true => if c = '\u1A17' then still .vowelSignBeforeYa else none
    | .vowelSignBeforeYa, _ => if c = '\u1A15' then complete else none
    | .tifinaghConsonant, _ =>
      if c = '\u2D7F' then some (1, .of (.ligature .tifinaghJoiner true))
      else if joiner && isTifinaghConsonant c then complete
      else none
    | .tifinaghJoiner, _ => if isTifinaghConsonant c then some (-1, .nothing) else none
    | .lisuTone, _ => if isBetween 0xA4F8 0xA4FB c then complete else none
    | .orkhonI, true => if c.toNat = 0x10C32 then complete else none
    | .kiratVowelE, _ =>
      if c.toNat = 0x16D63 || c.toNat = 0x16D69 then complete
      else if c.toNat = 0x16D67 then still .kiratVowelAi
      else if c.toNat = 0x16D68 then some (1, .of (.ligature .kiratVowelE true))
      else none
    | .kiratVowelAi, _ => if c.toNat = 0x16D63 then complete else none
    | _, false => none

def countBefore? (c : Char) (f : Follower) : Option (Int × After) :=
  match f with
  | .other | .lineFeed => none
  | .skinTone =>
    if inRanges tonedPictureRanges c then some (0, .of .picture)
    else if c = zeroWidthJoiner then some (0, .of (.joined .picture))
    else none
  | .picture => if c = zeroWidthJoiner then some (0, .of (.joined .picture)) else none
  | .flagLetter => if isFlagLetter c then some (1, .of .flagLetters) else none
  | .flagLetters =>
    if isFlagLetter c then some (1, .of .flagLetters)
    else if c = zeroWidthJoiner then some (0, .of (.joined .picture))
    else none
  | .joined j => countJoined? c j
  | .alef =>
    if isLam c then some (0, .nothing)
    else if columnsOf c = 0 && !inRanges opaqueRanges c then some (0, .of .alef)
    else none
  | .ligature l joiner => countLigature? c l joiner

def countFollowed (c : Char) (f : Follower) : Int × After :=
  if f = .other then countAlone c
  else if c = pictureSelector then (0, .selectPicture f)
  else if c = textSelector then (0, .selectText f)
  else (countBefore? c f).getD (countAlone c)

/-- The follower once the selector in front of it has met no character to select. -/
def After.unselected (a : After) : Follower :=
  match a.selector, a.follower with
  | .picture, .joined _ => .other
  | _, f => f

/-- The columns that a character adds to what stands after it, and what stands there then. -/
def countBefore (c : Char) (a : After) : Int × After :=
  if a.selector = .picture && inRanges selectablePictureRanges c then
    (match a.follower with
      | .joined _ => 0
      | _ => 2, .of .picture)
  else if c.toNat ≤ 0xA0 then
    if c = '\n' then (1, .of .lineFeed)
    else if c = '\r' && a.unselected = .lineFeed then (0, .nothing)
    else (1, .nothing)
  else if a.selector = .text && inRanges textualPictureRanges c then (1, .nothing)
  else countFollowed c a.unselected

/-- The columns that a text takes. -/
def columns (s : List Char) : Nat :=
  (s.foldr (fun c (n, a) => let (more, a) := countBefore c a; (n + more, a))
    ((0 : Int), After.nothing)).1.toNat

end Gradebook.Text
