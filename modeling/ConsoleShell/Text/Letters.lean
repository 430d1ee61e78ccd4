import ConsoleShell.Text.Graphic

/-!
# Letters in other forms

Many characters stand for the letters `a` to `z` in another form: upper case, fullwidth, raised, circled, drawn as in
formulas, or several letters in one sign. These are the characters whose compatibility decomposition, as of Unicode 17,
consists of such letters. `plainLetters` gives the letters themselves, in lower case.
-/

namespace ConsoleShell.Text

/-- The first code points of the alphabets, of 26 letters each. Some letters of the alphabets for formulas stand in
`letterSigns`; their places here are unassigned. -/
def alphabetStarts : List Nat :=
  [0x41, 0x61, 0x24B6, 0x24D0, 0xFF21, 0xFF41, 0x1CCD6, 0x1F130] ++ (List.range 26).map fun k => 0x1D400 + 26 * k

/-- The characters outside the alphabets, by code point. -/
def letterSigns : List (Nat × String) :=
  [(0xAA, "a"), (0xBA, "o"), (0x132, "ij"), (0x133, "ij"), (0x17F, "s"), (0x1C7, "lj"), (0x1C8, "lj"), (0x1C9, "lj"),
   (0x1CA, "nj"), (0x1CB, "nj"), (0x1CC, "nj"), (0x1F1, "dz"), (0x1F2, "dz"), (0x1F3, "dz"), (0x2B0, "h"),
   (0x2B2, "j"), (0x2B3, "r"), (0x2B7, "w"), (0x2B8, "y"), (0x2E1, "l"), (0x2E2, "s"), (0x2E3, "x"), (0x1D2C, "a"),
   (0x1D2E, "b"), (0x1D30, "d"), (0x1D31, "e"), (0x1D33, "g"), (0x1D34, "h"), (0x1D35, "i"), (0x1D36, "j"),
   (0x1D37, "k"), (0x1D38, "l"), (0x1D39, "m"), (0x1D3A, "n"), (0x1D3C, "o"), (0x1D3E, "p"), (0x1D3F, "r"),
   (0x1D40, "t"), (0x1D41, "u"), (0x1D42, "w"), (0x1D43, "a"), (0x1D47, "b"), (0x1D48, "d"), (0x1D49, "e"),
   (0x1D4D, "g"), (0x1D4F, "k"), (0x1D50, "m"), (0x1D52, "o"), (0x1D56, "p"), (0x1D57, "t"), (0x1D58, "u"),
   (0x1D5B, "v"), (0x1D62, "i"), (0x1D63, "r"), (0x1D64, "u"), (0x1D65, "v"), (0x1D9C, "c"), (0x1DA0, "f"),
   (0x1DBB, "z"), (0x2071, "i"), (0x207F, "n"), (0x2090, "a"), (0x2091, "e"), (0x2092, "o"), (0x2093, "x"),
   (0x2095, "h"), (0x2096, "k"), (0x2097, "l"), (0x2098, "m"), (0x2099, "n"), (0x209A, "p"), (0x209B, "s"),
   (0x209C, "t"), (0x20A8, "rs"), (0x2102, "c"), (0x210A, "g"), (0x210B, "h"), (0x210C, "h"), (0x210D, "h"),
   (0x210E, "h"), (0x2110, "i"), (0x2111, "i"), (0x2112, "l"), (0x2113, "l"), (0x2115, "n"), (0x2116, "no"),
   (0x2119, "p"), (0x211A, "q"), (0x211B, "r"), (0x211C, "r"), (0x211D, "r"), (0x2120, "sm"), (0x2121, "tel"),
   (0x2122, "tm"), (0x2124, "z"), (0x2128, "z"), (0x212A, "k"), (0x212C, "b"), (0x212D, "c"), (0x212F, "e"),
   (0x2130, "e"), (0x2131, "f"), (0x2133, "m"), (0x2134, "o"), (0x2139, "i"), (0x213B, "fax"), (0x2145, "d"),
   (0x2146, "d"), (0x2147, "e"), (0x2148, "i"), (0x2149, "j"), (0x2160, "i"), (0x2161, "ii"), (0x2162, "iii"),
   (0x2163, "iv"), (0x2164, "v"), (0x2165, "vi"), (0x2166, "vii"), (0x2167, "viii"), (0x2168, "ix"), (0x2169, "x"),
   (0x216A, "xi"), (0x216B, "xii"), (0x216C, "l"), (0x216D, "c"), (0x216E, "d"), (0x216F, "m"), (0x2170, "i"),
   (0x2171, "ii"), (0x2172, "iii"), (0x2173, "iv"), (0x2174, "v"), (0x2175, "vi"), (0x2176, "vii"), (0x2177, "viii"),
   (0x2178, "ix"), (0x2179, "x"), (0x217A, "xi"), (0x217B, "xii"), (0x217C, "l"), (0x217D, "c"), (0x217E, "d"),
   (0x217F, "m"), (0x2C7C, "j"), (0x2C7D, "v"), (0x3250, "pte"), (0x32CC, "hg"), (0x32CD, "erg"), (0x32CE, "ev"),
   (0x32CF, "ltd"), (0x3371, "hpa"), (0x3372, "da"), (0x3373, "au"), (0x3374, "bar"), (0x3375, "ov"), (0x3376, "pc"),
   (0x3377, "dm"), (0x337A, "iu"), (0x3380, "pa"), (0x3381, "na"), (0x3383, "ma"), (0x3384, "ka"), (0x3385, "kb"),
   (0x3386, "mb"), (0x3387, "gb"), (0x3388, "cal"), (0x3389, "kcal"), (0x338A, "pf"), (0x338B, "nf"), (0x338E, "mg"),
   (0x338F, "kg"), (0x3390, "hz"), (0x3391, "khz"), (0x3392, "mhz"), (0x3393, "ghz"), (0x3394, "thz"),
   (0x3396, "ml"), (0x3397, "dl"), (0x3398, "kl"), (0x3399, "fm"), (0x339A, "nm"), (0x339C, "mm"), (0x339D, "cm"),
   (0x339E, "km"), (0x33A9, "pa"), (0x33AA, "kpa"), (0x33AB, "mpa"), (0x33AC, "gpa"), (0x33AD, "rad"),
   (0x33B0, "ps"), (0x33B1, "ns"), (0x33B3, "ms"), (0x33B4, "pv"), (0x33B5, "nv"), (0x33B7, "mv"), (0x33B8, "kv"),
   (0x33B9, "mv"), (0x33BA, "pw"), (0x33BB, "nw"), (0x33BD, "mw"), (0x33BE, "kw"), (0x33BF, "mw"), (0x33C3, "bq"),
   (0x33C4, "cc"), (0x33C5, "cd"), (0x33C8, "db"), (0x33C9, "gy"), (0x33CA, "ha"), (0x33CB, "hp"), (0x33CC, "in"),
   (0x33CD, "kk"), (0x33CE, "km"), (0x33CF, "kt"), (0x33D0, "lm"), (0x33D1, "ln"), (0x33D2, "log"), (0x33D3, "lx"),
   (0x33D4, "mb"), (0x33D5, "mil"), (0x33D6, "mol"), (0x33D7, "ph"), (0x33D9, "ppm"), (0x33DA, "pr"), (0x33DB, "sr"),
   (0x33DC, "sv"), (0x33DD, "wb"), (0x33FF, "gal"), (0xA7F1, "s"), (0xA7F2, "c"), (0xA7F3, "f"), (0xA7F4, "q"),
   (0xFB00, "ff"), (0xFB01, "fi"), (0xFB02, "fl"), (0xFB03, "ffi"), (0xFB04, "ffl"), (0xFB05, "st"), (0xFB06, "st"),
   (0x107A5, "q"), (0x1F12B, "c"), (0x1F12C, "r"), (0x1F12D, "cd"), (0x1F12E, "wz"), (0x1F14A, "hv"),
   (0x1F14B, "mv"), (0x1F14C, "sd"), (0x1F14D, "ss"), (0x1F14E, "ppv"), (0x1F14F, "wc"), (0x1F16A, "mc"),
   (0x1F16B, "md"), (0x1F16C, "mr"), (0x1F190, "dj")]

/-- The letters that a character stands for. An ignorable character stands for none, and any other for itself. -/
def plainLetters (c : Char) : List Char :=
  let n := c.toNat
  match alphabetStarts.find? fun start => start ≤ n && n < start + 26 with
  | some start => [Char.ofNat (0x61 + (n - start))]
  | none => match letterSigns.lookup n with
    | some letters => letters.toList
    | none => if isIgnorable c then [] else [c]

end ConsoleShell.Text
