import SerialSuite.Text.Ligature

/-!
How many terminal columns a text takes. A character's columns depend on what follows it, so a text
is measured from its end: a skin tone, a selector, a joined emoji or a ligature changes what the
character in front of it adds. A line feed takes none, and neither does the carriage return in front
of it.
-/

namespace SerialSuite.Text

/-- What stands behind a character, as far as it matters to the character. -/
inductive Follower where
  | other
  | lineFeed
  /-- A skin tone. -/
  | tone
  | emoji
  /-- A joiner and an emoji, perhaps with a keycap in front. -/
  | joiner (keycap : Bool)
  /-- Flag letters, perhaps with a joiner and an emoji behind them. -/
  | indicators (count : Nat) (joined : Bool)
  /-- The end of a flag's region, a joiner and an emoji: so many letters, and digits in front. -/
  | region (digits letters : Nat)
  | ligature (part : Ligature)
  deriving DecidableEq, Repr

/-- The two selectors, for a character's look as a text and as an emoji. -/
inductive Selector where
  | text
  | emoji
  deriving DecidableEq, Repr

def Selector.ofChar? : Char → Option Selector
  | '\uFE0E' => some .text
  | '\uFE0F' => some .emoji
  | _ => none

/-- What is left of a follower with a selector in front. -/
def Follower.selected : Follower → Selector → Follower
  | .ligature part, _ => .ligature part
  | .joiner keycap, .emoji => .joiner keycap
  | _, _ => .other

/-- The end of a text: its columns, and what the character in front has to know of it. -/
structure Tail where
  columns : Nat
  follower : Follower
  selector : Option Selector

namespace Tail

def empty : Tail := ⟨0, .other, none⟩

/-- A character of so many columns in front. -/
def add (tail : Tail) (columns : Nat) (follower : Follower) : Tail :=
  ⟨tail.columns + columns, follower, none⟩

/-- A character in front that gives a column back. -/
def tighten (tail : Tail) (follower : Follower) : Tail :=
  ⟨tail.columns - 1, follower, none⟩

/-- A character in front that forms one shape with the tail. -/
def join? (tail : Tail) (c : Char) : Option Tail :=
  match tail.follower with
  | .ligature part =>
    (part.grow? c).map fun
      | .part columns part => tail.add columns (.ligature part)
      | .whole => tail.add 0 .other
      | .tight => tail.tighten .other
  | .tone =>
    if toneBase.has c then some (tail.add 0 .emoji)
    else if c = zeroWidthJoiner then some (tail.add 0 (.joiner false))
    else none
  | .emoji => if c = zeroWidthJoiner then some (tail.add 0 (.joiner false)) else none
  | .joiner false =>
    if c = '\u20E3' then some (tail.add 0 (.joiner true))
    else if c = tagEnd then some (tail.add 0 (.region 0 0))
    else if indicators.has c then some (tail.add 1 (.indicators 1 true))
    else if tones.has c then some (tail.add 0 .tone)
    else if pictorial.has c then some (tail.add 0 .emoji)
    else none
  | .indicators count joined =>
    if c = zeroWidthJoiner then
      if 2 ≤ count then some (tail.add 0 (.joiner false)) else none
    else if !indicators.has c then none
    else if !joined then some (tail.add 1 (.indicators (count + 1) false))
    else if count % 2 = 1 then some (tail.tighten (.indicators (count + 1) true))
    else some (tail.add 3 (.indicators (count + 1) true))
  | .region digits letters =>
    if tagLetters.has c && digits = 0 && letters < 6 then
      some (tail.add 0 (.region 0 (letters + 1)))
    else if tagDigits.has c && digits < 3 && letters ≤ 4 then
      some (tail.add 0 (.region (digits + 1) letters))
    else if c = blackFlag && (digits = 3 || (digits = 0 && 3 ≤ letters)) then
      some (tail.add 0 .emoji)
    else none
  | _ => none

/-- A character in front that goes by itself. -/
def set (tail : Tail) (c : Char) : Tail :=
  tail.add (charColumns c) <|
    if indicators.has c then .indicators 1 false
    else if tones.has c then .tone
    else if pictorial.has c then .emoji
    else match Ligature.endingIn? c with
      | some part => .ligature part
      | none => .other

/-- The tail with one more character in front. -/
def cons (c : Char) (tail : Tail) : Tail :=
  if tail.selector = some .emoji && selectable.has c then
    tail.add (if tail.follower matches .joiner _ then 0 else 2) .emoji
  else if c = '\n' then tail.add 0 .lineFeed
  else if c = '\r' && tail.follower = .lineFeed then tail.add 0 .other
  else if c.toNat ≤ 0xA0 then tail.add 1 .other
  else
    let follower := if tail.selector = some .emoji && tail.follower matches .joiner _ then .other
      else tail.follower
    match Selector.ofChar? c with
    | some selector => ⟨tail.columns, follower.selected selector, some selector⟩
    | none =>
      if tail.selector = some .text && pictorial.has c && selectable.has c && !squared.has c then
        tail.add 1 .other
      else
        let tail := { tail with follower }
        (tail.join? c).getD (tail.set c)

end Tail

/-- The columns of a text. -/
def columns (text : List Char) : Nat := (text.foldr Tail.cons .empty).columns

end SerialSuite.Text
