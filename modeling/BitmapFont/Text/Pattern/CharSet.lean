/-!
# Sets of characters

A set of characters is a list of intervals of code points in increasing order,
with at least one code point between any two of them.
-/

namespace BitmapFont.Text

structure Interval where
  low : Nat
  high : Nat
  deriving Repr, DecidableEq

namespace Interval

def insert (interval : Interval) : List Interval → List Interval
  | [] => [interval]
  | first :: rest =>
      if interval.high + 1 < first.low then
        interval :: first :: rest
      else if first.high + 1 < interval.low then
        first :: interval.insert rest
      else
        insert ⟨min interval.low first.low, max interval.high first.high⟩ rest

def gapsFrom (low : Nat) : List Interval → List Interval
  | [] => if low ≤ 0x10FFFF then [⟨low, 0x10FFFF⟩] else []
  | first :: rest =>
      if low < first.low then ⟨low, first.low - 1⟩ :: gapsFrom (first.high + 1) rest
      else gapsFrom (first.high + 1) rest

end Interval

structure CharSet where
  intervals : List Interval
  deriving Repr, DecidableEq

namespace CharSet

def none : CharSet :=
  ⟨[]⟩

def all : CharSet :=
  ⟨[⟨0, 0x10FFFF⟩]⟩

def range (low high : Char) : CharSet :=
  ⟨[⟨low.toNat, high.toNat⟩]⟩

def single (c : Char) : CharSet :=
  range c c

def contains (set : CharSet) (c : Char) : Bool :=
  set.intervals.any fun interval => interval.low ≤ c.toNat && c.toNat ≤ interval.high

def isEmpty (set : CharSet) : Bool :=
  set.intervals.isEmpty

def union (a b : CharSet) : CharSet :=
  ⟨b.intervals.foldl (fun intervals interval => interval.insert intervals) a.intervals⟩

def complement (set : CharSet) : CharSet :=
  ⟨Interval.gapsFrom 0 set.intervals⟩

def common (a b : CharSet) : CharSet :=
  (a.complement.union b.complement).complement

def difference (a b : CharSet) : CharSet :=
  a.common b.complement

def symmetricDifference (a b : CharSet) : CharSet :=
  (a.union b).difference (a.common b)

def isBasic (set : CharSet) : Bool :=
  set.intervals.all (·.high < 0x80)

def single? (set : CharSet) : Option Char :=
  match set.intervals with
  | [⟨low, high⟩] => if low = high then some (Char.ofNat low) else Option.none
  | _ => Option.none

def ofRanges (ranges : List (Char × Char)) : CharSet :=
  ranges.foldl (fun set (low, high) => union set (range low high)) none

def capitals : CharSet :=
  range 'A' 'Z'

def smalls : CharSet :=
  range 'a' 'z'

def anyCase (set : CharSet) : CharSet :=
  let small := (set.common capitals).intervals.map fun ⟨low, high⟩ => ⟨low + 32, high + 32⟩
  let capital := (set.common smalls).intervals.map fun ⟨low, high⟩ => ⟨low - 32, high - 32⟩
  (set.union ⟨small⟩).union ⟨capital⟩

def digits : CharSet :=
  range '0' '9'

def spaces : CharSet :=
  ofRanges [('\t', '\r'), (' ', ' ')]

def wordCharacters : CharSet :=
  ofRanges [('0', '9'), ('A', 'Z'), ('_', '_'), ('a', 'z')]

def named? (name : String) : Option CharSet :=
  match name with
  | "alnum" => some (ofRanges [('0', '9'), ('A', 'Z'), ('a', 'z')])
  | "alpha" => some (ofRanges [('A', 'Z'), ('a', 'z')])
  | "ascii" => some (range '\x00' '\x7f')
  | "blank" => some (ofRanges [('\t', '\t'), (' ', ' ')])
  | "cntrl" => some (ofRanges [('\x00', '\x1f'), ('\x7f', '\x7f')])
  | "digit" => some digits
  | "graph" => some (range '!' '~')
  | "lower" => some smalls
  | "print" => some (range ' ' '~')
  | "punct" => some (ofRanges [('!', '/'), (':', '@'), ('[', '\x60'), ('\x7b', '~')])
  | "space" => some spaces
  | "upper" => some capitals
  | "word" => some wordCharacters
  | "xdigit" => some (ofRanges [('0', '9'), ('A', 'F'), ('a', 'f')])
  | _ => Option.none

end CharSet

end BitmapFont.Text
