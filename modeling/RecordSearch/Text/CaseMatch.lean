import RecordSearch.Text.Lower

/-! Characters that match when case is left aside, one code point against one. -/
namespace RecordSearch

/-- The small form of a letter as one code point; that of a capital dotted I is the dotted i. -/
def caseKey (c : Char) : Char := if c == 'İ' then 'i' else smallForm c

/-- Small letters that are written differently and stand for the same letter. -/
def letterVariants : List Text := [
  "iı".toList, "sſ".toList, "µμ".toList, ['\u0345', 'ι', '\u1FBE'], ['ΐ', '\u1FD3'],
  ['ΰ', '\u1FE3'], "βϐ".toList, "εϵ".toList, "θϑ".toList, "κϰ".toList, "πϖ".toList, "ρϱ".toList,
  "ςσ".toList, "φϕ".toList, ['в', '\u1C80'], ['д', '\u1C81'], ['о', '\u1C82'], ['с', '\u1C83'],
  ['т', '\u1C84', '\u1C85'], ['ъ', '\u1C86'], ['ѣ', '\u1C87'], ['\u1C88', 'ꙋ'], "ṡẛ".toList,
  ['\uFB05', '\uFB06']]

/-- Whether two characters are the same letter but for case and variant. -/
def caseMatches (a b : Char) : Bool :=
  caseKey a == caseKey b ||
    letterVariants.any fun set => set.contains (caseKey a) && set.contains (caseKey b)

end RecordSearch
