import EspWebChat.JsValues

set_option autoImplicit false

/-!
# The texts of a JSON tree

The grammar of RFC 8259 as a relation between trees and sequences of code points. White space
and escapes are free, so a tree has many texts.
-/
namespace EspWebChat.JsonGrammar
open JsonTree JsValues

/-- `ws`. -/
def isSpace (c : Char) : Bool := c == ' ' || c == '\t' || c == '\n' || c == '\r'

def Spaces (cs : List Char) : Prop := ∀ c ∈ cs, isSpace c = true

def Unescaped (c : Char) : Prop := 0x20 ≤ c.toNat ∧ c ≠ '"' ∧ c ≠ '\\'

/-- The letter behind the backslash and the character it stands for. -/
def shortEscapes : List (Char × Char) :=
  [('"', '"'), ('\\', '\\'), ('/', '/'), ('b', '\x08'), ('f', '\x0c'), ('n', '\n'), ('r', '\r'), ('t', '\t')]

/-- `4HEXDIG`. -/
def HexCode (n : ℕ) (ds : List Char) : Prop := ds.length = 4 ∧ digits 16 ds = some n

inductive CharText : Char → List Char → Prop where
  | plain {c : Char} (h : Unescaped c) : CharText c [c]
  | short {c e : Char} (h : (e, c) ∈ shortEscapes) : CharText c ['\\', e]
  | unicode {c : Char} {ds : List Char} (h : HexCode c.toNat ds) : CharText c ('\\' :: 'u' :: ds)
  | pair {c : Char} {high low : ℕ} {hs ls : List Char} (first : HexCode high hs) (second : HexCode low ls)
      (leading : 0xd800 ≤ high ∧ high ≤ 0xdbff) (trailing : 0xdc00 ≤ low ∧ low ≤ 0xdfff)
      (code : c.toNat = 0x10000 + (high - 0xd800) * 0x400 + (low - 0xdc00)) :
      CharText c ('\\' :: 'u' :: (hs ++ '\\' :: 'u' :: ls))

inductive BodyText : List Char → List Char → Prop where
  | nil : BodyText [] []
  | cons {c : Char} {cs text rest : List Char} (h : CharText c text) (t : BodyText cs rest) :
      BodyText (c :: cs) (text ++ rest)

inductive StringText (s : String) : List Char → Prop where
  | quoted {body : List Char} (h : BodyText s.toList body) : StringText s ('"' :: (body ++ ['"']))

def Digits (ds : List Char) : Prop := ∀ d ∈ ds, isDecimalDigit d = true

inductive WholePart : List Char → Prop where
  | zero : WholePart ['0']
  | digits {d : Char} {ds : List Char} (nonzero : d ≠ '0') (h : Digits (d :: ds)) : WholePart (d :: ds)

inductive FractionPart : List Char → Prop where
  | none : FractionPart []
  | some {d : Char} {ds : List Char} (h : Digits (d :: ds)) : FractionPart ('.' :: d :: ds)

inductive ExponentPart : List Char → Prop where
  | none : ExponentPart []
  | some {e : Char} {sign ds : List Char} {d : Char} (letter : e = 'e' ∨ e = 'E')
      (signed : sign = [] ∨ sign = ['+'] ∨ sign = ['-']) (h : Digits (d :: ds)) :
      ExponentPart (e :: (sign ++ d :: ds))

/-- A number text and the double it denotes. -/
inductive NumberText : Number → List Char → Prop where
  | mk {minus whole fraction exponent : List Char} (sign : minus = [] ∨ minus = ['-']) (w : WholePart whole)
      (f : FractionPart fraction) (e : ExponentPart exponent) :
      NumberText (numberOfText (String.ofList (minus ++ whole ++ fraction ++ exponent)))
        (minus ++ whole ++ fraction ++ exponent)

/-- A value, or what stands between the brackets of a filled array or object. -/
inductive Part where
  | value (j : Json)
  | items (js : List Json)
  | members (ms : Members)

inductive Writes : Part → List Char → Prop where
  | null : Writes (.value .null) ['n', 'u', 'l', 'l']
  | yes : Writes (.value (.bool true)) ['t', 'r', 'u', 'e']
  | no : Writes (.value (.bool false)) ['f', 'a', 'l', 's', 'e']
  | num {n : Number} {cs : List Char} (h : NumberText n cs) : Writes (.value (.num n)) cs
  | str {s : String} {cs : List Char} (h : StringText s cs) : Writes (.value (.str s)) cs
  | noItems {ws : List Char} (h : Spaces ws) : Writes (.value (.arr [])) ('[' :: (ws ++ [']']))
  | arr {js : List Json} {cs : List Char} (h : Writes (.items js) cs) : Writes (.value (.arr js)) ('[' :: (cs ++ [']']))
  | noMembers {ws : List Char} (h : Spaces ws) : Writes (.value (.obj [])) ('\x7b' :: (ws ++ ['\x7d']))
  | obj {ms : Members} {cs : List Char} (h : Writes (.members ms) cs) :
      Writes (.value (.obj ms)) ('\x7b' :: (cs ++ ['\x7d']))
  | item {j : Json} {before cs after : List Char} (b : Spaces before) (h : Writes (.value j) cs) (a : Spaces after) :
      Writes (.items [j]) (before ++ cs ++ after)
  | moreItems {j : Json} {js : List Json} {before cs after rest : List Char} (b : Spaces before)
      (h : Writes (.value j) cs) (a : Spaces after) (t : Writes (.items js) rest) :
      Writes (.items (j :: js)) (before ++ cs ++ after ++ ',' :: rest)
  | member {key : String} {j : Json} {before ks mid between cs after : List Char} (b : Spaces before)
      (k : StringText key ks) (m : Spaces mid) (i : Spaces between) (h : Writes (.value j) cs) (a : Spaces after) :
      Writes (.members [(key, j)]) (before ++ ks ++ mid ++ ':' :: (between ++ cs ++ after))
  | moreMembers {key : String} {j : Json} {ms : Members} {before ks mid between cs after rest : List Char}
      (b : Spaces before) (k : StringText key ks) (m : Spaces mid) (i : Spaces between) (h : Writes (.value j) cs)
      (a : Spaces after) (t : Writes (.members ms) rest) :
      Writes (.members ((key, j) :: ms)) (before ++ ks ++ mid ++ ':' :: (between ++ cs ++ after ++ ',' :: rest))

mutual
def depth : Json → ℕ
  | .arr js => 1 + itemsDepth js
  | .obj ms => 1 + membersDepth ms
  | _ => 0
def itemsDepth : List Json → ℕ
  | [] => 0
  | j :: js => max (depth j) (itemsDepth js)
def membersDepth : List (String × Json) → ℕ
  | [] => 0
  | (_, j) :: ms => max (depth j) (membersDepth ms)
end

def textNulFree (s : String) : Bool := decide ('\x00' ∉ s.toList)

mutual
/-- No string and no key contains U+0000. -/
def nulFree : Json → Bool
  | .str s => textNulFree s
  | .arr js => itemsNulFree js
  | .obj ms => membersNulFree ms
  | _ => true
def itemsNulFree : List Json → Bool
  | [] => true
  | j :: js => nulFree j && itemsNulFree js
def membersNulFree : List (String × Json) → Bool
  | [] => true
  | (key, j) :: ms => textNulFree key && nulFree j && membersNulFree ms
end

mutual
/-- No object, at any depth, has two equal keys. -/
def DistinctKeys : Json → Prop
  | .arr js => ItemsDistinct js
  | .obj ms => UniqueKeys ms ∧ MembersDistinct ms
  | _ => True
def ItemsDistinct : List Json → Prop
  | [] => True
  | j :: js => DistinctKeys j ∧ ItemsDistinct js
def MembersDistinct : List (String × Json) → Prop
  | [] => True
  | (_, j) :: ms => DistinctKeys j ∧ MembersDistinct ms
end

def partDepth : Part → ℕ
  | .value j => depth j
  | .items js => itemsDepth js
  | .members ms => membersDepth ms

def partNulFree : Part → Bool
  | .value j => nulFree j
  | .items js => itemsNulFree js
  | .members ms => membersNulFree ms

end EspWebChat.JsonGrammar
