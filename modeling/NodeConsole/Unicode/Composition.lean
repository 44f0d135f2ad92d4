import NodeConsole.Unicode.CombiningClass

/-!
The composed form of a text: marks are put into the order of their classes, and a starter is
replaced, together with a mark that follows it, by the code point that stands for both where there
is one. Two texts that look the same have the same composed form.
-/

namespace NodeConsole.Unicode

namespace Composition

structure Pair where
  first : Nat
  second : Nat
  composed : Nat
deriving DecidableEq, Repr

def Pair.read (text : List Char) : Pair :=
  let (first, more) := text.span (· ≠ '+')
  let (second, composed) := (more.drop 1).span (· ≠ '=')
  { first := digitsValue 16 first
    second := digitsValue 16 second
    composed := digitsValue 16 (composed.drop 1) }

def rows : List String :=
  [
    "3c+338=226e 3d+338=2260 3e+338=226f 61+300=e0 61+301=e1 61+302=e2 61+303=e3 61+304=101",
    "61+306=103 61+307=227 61+308=e4 61+309=1ea3 61+30a=e5 61+30c=1ce 61+30f=201 61+311=203",
    "61+323=1ea1 61+325=1e01 61+328=105 62+307=1e03 62+323=1e05 62+331=1e07 63+301=107 63+302=109",
    "63+307=10b 63+30c=10d 63+327=e7 64+307=1e0b 64+30c=10f 64+323=1e0d 64+327=1e11 64+32d=1e13",
    "64+331=1e0f 65+300=e8 65+301=e9 65+302=ea 65+303=1ebd 65+304=113 65+306=115 65+307=117",
    "65+308=eb 65+309=1ebb 65+30c=11b 65+30f=205 65+311=207 65+323=1eb9 65+327=229 65+328=119",
    "65+32d=1e19 65+330=1e1b 66+307=1e1f 67+301=1f5 67+302=11d 67+304=1e21 67+306=11f 67+307=121",
    "67+30c=1e7 67+327=123 68+302=125 68+307=1e23 68+308=1e27 68+30c=21f 68+323=1e25 68+327=1e29",
    "68+32e=1e2b 68+331=1e96 69+300=ec 69+301=ed 69+302=ee 69+303=129 69+304=12b 69+306=12d",
    "69+308=ef 69+309=1ec9 69+30c=1d0 69+30f=209 69+311=20b 69+323=1ecb 69+328=12f 69+330=1e2d",
    "6a+302=135 6a+30c=1f0 6b+301=1e31 6b+30c=1e9 6b+323=1e33 6b+327=137 6b+331=1e35 6c+301=13a",
    "6c+30c=13e 6c+323=1e37 6c+327=13c 6c+32d=1e3d 6c+331=1e3b 6d+301=1e3f 6d+307=1e41",
    "6d+323=1e43 6e+300=1f9 6e+301=144 6e+303=f1 6e+307=1e45 6e+30c=148 6e+323=1e47 6e+327=146",
    "6e+32d=1e4b 6e+331=1e49 6f+300=f2 6f+301=f3 6f+302=f4 6f+303=f5 6f+304=14d 6f+306=14f",
    "6f+307=22f 6f+308=f6 6f+309=1ecf 6f+30b=151 6f+30c=1d2 6f+30f=20d 6f+311=20f 6f+31b=1a1",
    "6f+323=1ecd 6f+328=1eb 70+301=1e55 70+307=1e57 72+301=155 72+307=1e59 72+30c=159 72+30f=211",
    "72+311=213 72+323=1e5b 72+327=157 72+331=1e5f 73+301=15b 73+302=15d 73+307=1e61 73+30c=161",
    "73+323=1e63 73+326=219 73+327=15f 74+307=1e6b 74+308=1e97 74+30c=165 74+323=1e6d 74+326=21b",
    "74+327=163 74+32d=1e71 74+331=1e6f 75+300=f9 75+301=fa 75+302=fb 75+303=169 75+304=16b",
    "75+306=16d 75+308=fc 75+309=1ee7 75+30a=16f 75+30b=171 75+30c=1d4 75+30f=215 75+311=217",
    "75+31b=1b0 75+323=1ee5 75+324=1e73 75+328=173 75+32d=1e77 75+330=1e75 76+303=1e7d",
    "76+323=1e7f 77+300=1e81 77+301=1e83 77+302=175 77+307=1e87 77+308=1e85 77+30a=1e98",
    "77+323=1e89 78+307=1e8b 78+308=1e8d 79+300=1ef3 79+301=fd 79+302=177 79+303=1ef9 79+304=233",
    "79+307=1e8f 79+308=ff 79+309=1ef7 79+30a=1e99 79+323=1ef5 7a+301=17a 7a+302=1e91 7a+307=17c",
    "7a+30c=17e 7a+323=1e93 7a+331=1e95 e2+300=1ea7 e2+301=1ea5 e2+303=1eab e2+309=1ea9",
    "e4+304=1df e5+301=1fb e6+301=1fd e6+304=1e3 e7+301=1e09 ea+300=1ec1 ea+301=1ebf ea+303=1ec5",
    "ea+309=1ec3 ef+301=1e2f f4+300=1ed3 f4+301=1ed1 f4+303=1ed7 f4+309=1ed5 f5+301=1e4d",
    "f5+304=22d f5+308=1e4f f6+304=22b f8+301=1ff fc+300=1dc fc+301=1d8 fc+304=1d6 fc+30c=1da",
    "103+300=1eb1 103+301=1eaf 103+303=1eb5 103+309=1eb3 113+300=1e15 113+301=1e17 14d+300=1e51",
    "14d+301=1e53 15b+307=1e65 161+307=1e67 169+301=1e79 16b+308=1e7b 1a1+300=1edd 1a1+301=1edb",
    "1a1+303=1ee1 1a1+309=1edf 1a1+323=1ee3 1b0+300=1eeb 1b0+301=1ee9 1b0+303=1eef 1b0+309=1eed",
    "1b0+323=1ef1 1eb+304=1ed 227+304=1e1 229+306=1e1d 22f+304=231 292+30c=1ef 3b1+300=1f70",
    "3b1+301=3ac 3b1+304=1fb1 3b1+306=1fb0 3b1+313=1f00 3b1+314=1f01 3b1+342=1fb6 3b5+300=1f72",
    "3b5+301=3ad 3b5+313=1f10 3b5+314=1f11 3b7+300=1f74 3b7+301=3ae 3b7+313=1f20 3b7+314=1f21",
    "3b7+342=1fc6 3b9+300=1f76 3b9+301=3af 3b9+304=1fd1 3b9+306=1fd0 3b9+308=3ca 3b9+313=1f30",
    "3b9+314=1f31 3b9+342=1fd6 3bf+300=1f78 3bf+301=3cc 3bf+313=1f40 3bf+314=1f41 3c1+313=1fe4",
    "3c1+314=1fe5 3c5+300=1f7a 3c5+301=3cd 3c5+304=1fe1 3c5+306=1fe0 3c5+308=3cb 3c5+313=1f50",
    "3c5+314=1f51 3c5+342=1fe6 3c9+300=1f7c 3c9+301=3ce 3c9+313=1f60 3c9+314=1f61 3c9+342=1ff6",
    "3ca+300=1fd2 3ca+301=390 3ca+342=1fd7 3cb+300=1fe2 3cb+301=3b0 3cb+342=1fe7 430+306=4d1",
    "430+308=4d3 433+301=453 435+300=450 435+306=4d7 435+308=451 436+306=4c2 436+308=4dd",
    "437+308=4df 438+300=45d 438+304=4e3 438+306=439 438+308=4e5 43a+301=45c 43e+308=4e7",
    "443+304=4ef 443+306=45e 443+308=4f1 443+30b=4f3 447+308=4f5 44b+308=4f9 44d+308=4ed",
    "456+308=457 475+30f=477 4d9+308=4db 4e9+308=4eb 627+653=622 627+654=623 627+655=625",
    "648+654=624 64a+654=626 6c1+654=6c2 6d2+654=6d3 6d5+654=6c0 928+93c=929 930+93c=931",
    "933+93c=934 9c7+9be=9cb 9c7+9d7=9cc b47+b3e=b4b b47+b56=b48 b47+b57=b4c b92+bd7=b94",
    "bc6+bbe=bca bc6+bd7=bcc bc7+bbe=bcb c46+c56=c48 cbf+cd5=cc0 cc6+cc2=cca cc6+cd5=cc7",
    "cc6+cd6=cc8 cca+cd5=ccb d46+d3e=d4a d46+d57=d4c d47+d3e=d4b dd9+dca=dda dd9+dcf=ddc",
    "dd9+ddf=dde ddc+dca=ddd 1025+102e=1026 1b05+1b35=1b06 1b07+1b35=1b08 1b09+1b35=1b0a",
    "1b0b+1b35=1b0c 1b0d+1b35=1b0e 1b11+1b35=1b12 1b3a+1b35=1b3b 1b3c+1b35=1b3d 1b3e+1b35=1b40",
    "1b3f+1b35=1b41 1b42+1b35=1b43 1e37+304=1e39 1e5b+304=1e5d 1e63+307=1e69 1ea1+302=1ead",
    "1ea1+306=1eb7 1eb9+302=1ec7 1ecd+302=1ed9 1f00+300=1f02 1f00+301=1f04 1f00+342=1f06",
    "1f01+300=1f03 1f01+301=1f05 1f01+342=1f07 1f10+300=1f12 1f10+301=1f14 1f11+300=1f13",
    "1f11+301=1f15 1f20+300=1f22 1f20+301=1f24 1f20+342=1f26 1f21+300=1f23 1f21+301=1f25",
    "1f21+342=1f27 1f30+300=1f32 1f30+301=1f34 1f30+342=1f36 1f31+300=1f33 1f31+301=1f35",
    "1f31+342=1f37 1f40+300=1f42 1f40+301=1f44 1f41+300=1f43 1f41+301=1f45 1f50+300=1f52",
    "1f50+301=1f54 1f50+342=1f56 1f51+300=1f53 1f51+301=1f55 1f51+342=1f57 1f60+300=1f62",
    "1f60+301=1f64 1f60+342=1f66 1f61+300=1f63 1f61+301=1f65 1f61+342=1f67 2190+338=219a",
    "2192+338=219b 2194+338=21ae 21d0+338=21cd 21d2+338=21cf 21d4+338=21ce 2203+338=2204",
    "2208+338=2209 220b+338=220c 2223+338=2224 2225+338=2226 223c+338=2241 2243+338=2244",
    "2245+338=2247 2248+338=2249 224d+338=226d 2261+338=2262 2264+338=2270 2265+338=2271",
    "2272+338=2274 2273+338=2275 2276+338=2278 2277+338=2279 227a+338=2280 227b+338=2281",
    "227c+338=22e0 227d+338=22e1 2282+338=2284 2283+338=2285 2286+338=2288 2287+338=2289",
    "2291+338=22e2 2292+338=22e3 22a2+338=22ac 22a8+338=22ad 22a9+338=22ae 22ab+338=22af",
    "22b2+338=22ea 22b3+338=22eb 22b4+338=22ec 22b5+338=22ed 3046+3099=3094 304b+3099=304c",
    "304d+3099=304e 304f+3099=3050 3051+3099=3052 3053+3099=3054 3055+3099=3056 3057+3099=3058",
    "3059+3099=305a 305b+3099=305c 305d+3099=305e 305f+3099=3060 3061+3099=3062 3064+3099=3065",
    "3066+3099=3067 3068+3099=3069 306f+3099=3070 306f+309a=3071 3072+3099=3073 3072+309a=3074",
    "3075+3099=3076 3075+309a=3077 3078+3099=3079 3078+309a=307a 307b+3099=307c 307b+309a=307d",
    "309d+3099=309e 30a6+3099=30f4 30ab+3099=30ac 30ad+3099=30ae 30af+3099=30b0 30b1+3099=30b2",
    "30b3+3099=30b4 30b5+3099=30b6 30b7+3099=30b8 30b9+3099=30ba 30bb+3099=30bc 30bd+3099=30be",
    "30bf+3099=30c0 30c1+3099=30c2 30c4+3099=30c5 30c6+3099=30c7 30c8+3099=30c9 30cf+3099=30d0",
    "30cf+309a=30d1 30d2+3099=30d3 30d2+309a=30d4 30d5+3099=30d6 30d5+309a=30d7 30d8+3099=30d9",
    "30d8+309a=30da 30db+3099=30dc 30db+309a=30dd 30ef+3099=30f7 30f0+3099=30f8 30f1+3099=30f9",
    "30f2+3099=30fa 30fd+3099=30fe 11099+110ba=1109a 1109b+110ba=1109c 110a5+110ba=110ab",
    "11131+11127=1112e 11132+11127=1112f 11347+1133e=1134b 11347+11357=1134c 114b9+114b0=114bc",
    "114b9+114ba=114bb 114b9+114bd=114be 115b8+115af=115ba 115b9+115af=115bb 11935+11930=11938"]

def pairs : List Pair :=
  rows.flatMap fun row => (row.toList.splitOn ' ').map Pair.read

/-! Syllables of Hangul are made of two or three letters by their numbers. -/

def leading : Nat := 0x1100
def vowel : Nat := 0x1161
def trailing : Nat := 0x11A7
def syllable : Nat := 0xAC00
def leadingCount : Nat := 19
def vowelCount : Nat := 21
def trailingCount : Nat := 28

def isIn (first count code : Nat) : Bool :=
  first ≤ code && code < first + count

def isSyllable (code : Nat) : Bool :=
  isIn syllable (leadingCount * vowelCount * trailingCount) code

def letters (code : Nat) : List Nat :=
  let number := code - syllable
  let last := number % trailingCount
  [leading + number / (vowelCount * trailingCount),
    vowel + number / trailingCount % vowelCount] ++
    if last = 0 then [] else [trailing + last]

def composed? (first second : Nat) : Option Nat :=
  if isIn leading leadingCount first && isIn vowel vowelCount second then
    some (syllable +
      ((first - leading) * vowelCount + (second - vowel)) * trailingCount)
  else if isSyllable first && (first - syllable) % trailingCount = 0
      && isIn (trailing + 1) (trailingCount - 1) second then
    some (first + (second - trailing))
  else
    (pairs.find? fun pair => pair.first = first && pair.second = second).map (·.composed)

/-- The parts of a code point. No second part has parts of its own, and no first part is taken
apart more than three times. -/
def parts : Nat → Nat → List Nat
  | 0, code => [code]
  | depth + 1, code =>
    if isSyllable code then letters code
    else
      match pairs.find? fun pair => pair.composed = code with
      | some pair => parts depth pair.first ++ [pair.second]
      | none => [code]

/-- Puts a code point behind others, of which the last is first; a mark goes in front of marks
of a higher class. -/
def place (code : Nat) : List Nat → List Nat
  | [] => [code]
  | other :: rest =>
    if combiningClass code ≠ 0 ∧ combiningClass code < combiningClass other then
      other :: place code rest
    else code :: other :: rest

def decompose (text : List Nat) : List Nat :=
  ((text.flatMap (parts 4)).foldl (fun done code => place code done) []).reverse

/-- A text that is being composed: what is finished, the last starter, and the marks behind it,
both last first. -/
structure State where
  done : List Nat := []
  starter : Option Nat := none
  marks : List Nat := []
deriving Repr

namespace State

def finished (state : State) : List Nat :=
  state.marks ++ state.starter.toList ++ state.done

def blocks (state : State) (code : Nat) : Bool :=
  match state.marks with
  | [] => false
  | last :: _ => combiningClass code ≤ combiningClass last

def add (state : State) (code : Nat) : State :=
  let joined := if state.blocks code then none else state.starter.bind fun first =>
    composed? first code
  match joined with
  | some composed => { state with starter := some composed }
  | none =>
    if combiningClass code = 0 then { done := state.finished, starter := some code }
    else if state.starter.isNone then { state with done := code :: state.done }
    else { state with marks := code :: state.marks }

end State

def compose (text : List Nat) : List Nat :=
  (text.foldl State.add {}).finished.reverse

end Composition

def composedForm (text : List Nat) : List Nat :=
  Composition.compose (Composition.decompose text)

end NodeConsole.Unicode
