import EditorConfig.Proofs.Dumped
import EditorConfig.Proofs.Literals
import EditorConfig.Proofs.Restored

/-! YAML documents read back. A reader skips comments, cuts every line at its first colon with a
blank behind it, undoes single quotes and takes plain scalars for what their form says. From the
document of settings it gets their entries, with texts for values, whatever has dumped them. -/

namespace EditorConfig

namespace Yaml

/-- The lines of a document, each of which ends with a line feed. -/
def lines? (cs : List Char) : Option (List (List Char)) :=
  if (cs.splitOn '\n').getLast? = some [] then some (cs.splitOn '\n').dropLast else none

/-- The parts of a line before and behind its first colon that a blank follows. -/
def cut? : List Char → Option (List Char × List Char)
  | [] => none
  | ':' :: ' ' :: cs => some ([], cs)
  | c :: cs => (cut? cs).map fun parts => (c :: parts.1, parts.2)

/-- The text up to a closing quote, behind which nothing is left. A quote that is written twice
belongs to the text. -/
def unquoted? : List Char → Option (List Char)
  | [] => none
  | [c] => if c = Text.singleQuote then some [] else none
  | c :: d :: cs =>
    if c ≠ Text.singleQuote then (unquoted? (d :: cs)).map (c :: ·)
    else if d = Text.singleQuote then (unquoted? cs).map (c :: ·)
    else none

def scalar? : List Char → Option Scalar
  | [] => some (.ofPlain "")
  | c :: cs =>
    if c = Text.singleQuote then (unquoted? cs).map fun text => .text (String.ofList text)
    else some (.ofPlain (String.ofList (c :: cs)))

def pair? (line : List Char) : Option (String × Scalar) := do
  let (key, scalar) ← cut? line
  return (String.ofList key, ← scalar? scalar)

/-- The pairs of a document. -/
def read? (document : String) : Option (List (String × Scalar)) := do
  let lines ← lines? document.toList
  (lines.filter fun line => line.head? ≠ some '#').mapM pair?

theorem lines?_flatMap {lines : List (List Char)} (h : ∀ line ∈ lines, '\n' ∉ line) :
    lines? (lines.flatMap (· ++ ['\n'])) = some lines := by
  have hsplit : (lines.flatMap (· ++ ['\n'])).splitOn '\n' = lines ++ [[]] := by
    induction lines with
    | nil => rfl
    | cons line rest ih =>
      rw [List.flatMap_cons, List.append_assoc, List.singleton_append,
        List.splitOn_append_cons_self_of_not_mem (h line List.mem_cons_self),
        ih fun other ho => h other (List.mem_cons_of_mem line ho), List.cons_append]
  rw [lines?, hsplit, List.getLast?_concat, if_pos rfl, List.dropLast_concat]

theorem cut?_append {key : List Char} (h : ':' ∉ key) (cs : List Char) :
    cut? (key ++ ':' :: ' ' :: cs) = some (key, cs) := by
  induction key with
  | nil => rfl
  | cons c rest ih =>
    rw [List.mem_cons, not_or] at h
    have hrest := ih h.2
    rw [List.cons_append]
    unfold cut?
    split
    · contradiction
    · simp_all
    · simp_all

theorem unquoted?_append {cs : List Char} (h : Text.singleQuote ∉ cs) :
    unquoted? (cs ++ [Text.singleQuote]) = some cs := by
  induction cs with
  | nil => rfl
  | cons c rest ih =>
    rw [List.mem_cons, not_or] at h
    have hrest := ih h.2
    rw [List.cons_append]
    cases hcs : rest ++ [Text.singleQuote] with
    | nil => simp at hcs
    | cons d others =>
      rw [hcs] at hrest
      rw [unquoted?, if_pos (Ne.symm h.1), hrest]
      rfl

section Dumped

variable {dump : Dump} {scalar : String → String} (hd : Dumps dump scalar)

include hd

/-- Every scalar is read as a text, whether or not it is quoted. -/
theorem scalar?_scalar {s : String} (h : Bare s) :
    scalar? (scalar s).toList = some (.text s) := by
  have hquote : Text.singleQuote ∉ s.toList := h.not_mem (by decide)
  rw [hd.scalar_eq h]
  split
  · rename_i hs
    cases hcs : s.toList with
    | nil => exact absurd hcs h.ne_nil
    | cons c rest =>
      have hc : c ≠ Text.singleQuote := by
        rintro rfl
        exact hquote (hcs ▸ List.mem_cons_self)
      rw [scalar?, if_neg hc, ← hcs, String.ofList_toList, Scalar.ofPlain_eq_text hs]
  · have hquoted : ("'" ++ s ++ "'").toList =
        Text.singleQuote :: (s.toList ++ [Text.singleQuote]) := by
      simp [Text.singleQuote]
    rw [hquoted, scalar?, if_pos rfl, unquoted?_append hquote, Option.map_some,
      String.ofList_toList]

theorem newline_not_mem_scalar {s : String} (h : Bare s) : '\n' ∉ (scalar s).toList := by
  have hnewline : '\n' ∉ s.toList := h.not_mem (by decide)
  rw [hd.scalar_eq h]
  split
  · exact hnewline
  · simp [hnewline]

end Dumped

/-- The lines of pairs, whose keys are read as what they look like. -/
def rows (scalar : String → String) (pairs : List (String × String)) : String :=
  String.join (pairs.map fun e => e.1 ++ ": " ++ scalar e.2 ++ "\n")

/-- A line without the line feed that ends it. -/
def body (scalar : String → String) (e : String × String) : List Char :=
  e.1.toList ++ ':' :: ' ' :: (scalar e.2).toList

/-- A pair of words that fits on one line, with a key that needs no quotes. -/
structure BarePair (e : String × String) : Prop where
  key : Bare e.1
  short : e.1.length < keyLimit
  plain : (Scalar.ofPlain e.1).isText
  value : Bare e.2

section Pairs

variable {dump : Dump} {scalar : String → String} (hd : Dumps dump scalar)
  {pairs : List (String × String)} (h : ∀ e ∈ pairs, BarePair e)

include hd h

theorem mapM_pair? :
    (pairs.map (body scalar)).mapM pair? = some (pairs.map fun e => (e.1, .text e.2)) := by
  induction pairs with
  | nil => rfl
  | cons e rest ih =>
    have he := h e List.mem_cons_self
    have hpair : pair? (body scalar e) = some (e.1, .text e.2) := by
      rw [pair?, body, cut?_append (he.key.not_mem (by decide))]
      simp [scalar?_scalar hd he.value]
    rw [List.map_cons, List.mapM_cons, hpair,
      ih fun other ho => h other (List.mem_cons_of_mem e ho)]
    rfl

/-- A document of lines reads back as its pairs. -/
theorem read?_document :
    read? ("# EditorConfig properties\n" ++ rows scalar pairs) =
      some (pairs.map fun e => (e.1, .text e.2)) := by
  have hlines : ("# EditorConfig properties\n" ++ rows scalar pairs).toList =
      ("# EditorConfig properties".toList :: pairs.map (body scalar)).flatMap (· ++ ['\n']) := by
    simp [rows, String.toList_join, body, List.flatMap_map]
  have hended : ∀ l ∈ "# EditorConfig properties".toList :: pairs.map (body scalar), '\n' ∉ l := by
    refine List.forall_mem_cons.2 ⟨by decide, fun l hl => ?_⟩
    obtain ⟨e, he, rfl⟩ := List.mem_map.1 hl
    have hkey : '\n' ∉ e.1.toList := (h e he).key.not_mem (by decide)
    simp [body, hkey, newline_not_mem_scalar hd (h e he).value]
  have hkept : (pairs.map (body scalar)).filter (fun l => l.head? ≠ some '#') =
      pairs.map (body scalar) := by
    refine List.filter_eq_self.2 fun l hl => ?_
    obtain ⟨e, he, rfl⟩ := List.mem_map.1 hl
    have hcomment : '#' ∉ e.1.toList := (h e he).key.not_mem (by decide)
    cases hcs : e.1.toList with
    | nil => exact absurd hcs (h e he).key.ne_nil
    | cons c rest =>
      rw [hcs, List.mem_cons, not_or] at hcomment
      simpa [body, hcs] using Ne.symm hcomment.1
  rw [read?, hlines, lines?_flatMap hended]
  simp only [bind, Option.bind]
  rw [List.filter_cons_of_neg (by decide), hkept, mapM_pair? hd h]

/-- A block of pairs, without the line feed that ends it, is what stands below the heading. -/
theorem join_stripped (hne : pairs ≠ []) (hkeys : (pairs.map Prod.fst).Nodup) :
    "\n".intercalate [Settings.heading, Text.stripped (dump .block pairs)] ++ "\n" =
      "# EditorConfig properties\n" ++ rows scalar pairs := by
  have hblock : dump .block pairs = rows scalar pairs := by
    have hbare : ∀ e ∈ pairs, (Bare e.1 ∧ e.1.length < keyLimit) ∧ Bare e.2 :=
      fun e he => ⟨⟨(h e he).key, (h e he).short⟩, (h e he).value⟩
    rw [hd.pairs hne hkeys hbare]
    refine congrArg String.join (List.map_congr_left fun e he => ?_)
    rw [hd.pair (h e he).key (h e he).short (h e he).value,
      hd.plain (h e he).key (h e he).plain]
  -- Before the last line feed stands the value of the last pair.
  obtain ⟨front, e, rfl⟩ := (List.eq_nil_or_concat' pairs).resolve_left hne
  have he := h e (by simp)
  obtain ⟨c, hc, hblank⟩ := hd.exists_getLast? he.value
  have hended : rows scalar (front ++ [e]) =
      rows scalar front ++ (e.1 ++ ": " ++ scalar e.2) ++ "\n" := by
    simp [rows, String.append_assoc]
  have hlast : (rows scalar front ++ (e.1 ++ ": " ++ scalar e.2)).toList.getLast? = some c := by
    simp only [String.toList_append, List.getLast?_append, hc, Option.some_or]
  have hjoined : ∀ t : String, "\n".intercalate [Settings.heading, t] ++ "\n" =
      "# EditorConfig properties\n" ++ (t ++ "\n") := by
    intro t
    rw [← String.append_assoc]
    simp [Settings.heading]
  rw [hblock, hended, stripped_append_newline hlast hblank, hjoined]

end Pairs

end Yaml

namespace StandardProperty

theorem bare_words (p : StandardProperty) : ∀ w ∈ p.words, Yaml.Bare w := by
  cases p <;> decide

/-- What a standard property reads is a word. -/
theorem Spells.bare {p : StandardProperty} {t : String} {v : Value} (h : p.Spells t v) :
    Yaml.Bare t := by
  rcases h.digits_or_word with ⟨hne, hdigits⟩ | hword
  · have hexceptions : ∀ w ∈ Yaml.exceptions, w.toList.all Char.isDigit = false := by decide
    have hall : t.toList.all Char.isDigit = true := List.all_eq_true.2 hdigits
    refine ⟨?_, fun hmem => absurd (hall.symm.trans (hexceptions t hmem)) (by decide)⟩
    cases hcs : t.toList with
    | nil => exact absurd hcs hne
    | cons c cs => rw [Yaml.isBare, ← hcs, hall, Bool.true_or]
  · exact p.bare_words t hword

theorem barePair_key (p : StandardProperty) {t : String} (h : Yaml.Bare t) :
    Yaml.BarePair (p.key, t) where
  key := by
    show Yaml.Bare p.key
    cases p <;> decide
  short := by
    show p.key.length < Yaml.keyLimit
    cases p <;> decide
  plain := by
    show (Yaml.Scalar.ofPlain p.key).isText
    cases p <;> decide
  value := h

end StandardProperty

/-- The document of settings reads back as their entries. -/
theorem Settings.Produced.yaml_reads {dump : Yaml.Dump} {scalar : String → String}
    (hd : Yaml.Dumps dump scalar) {cat : Catalog} {s : Settings} (hs : s.Produced)
    (h : cat.Reachable) :
    ∃ es document, s.entries cat = .ok es ∧ s.yaml dump cat = .ok document ∧
      document = "# EditorConfig properties\n" ++
        String.join (es.map fun e => e.1 ++ ": " ++ scalar e.2 ++ "\n") ∧
      (∀ e ∈ es, scalar e.2 =
        if (Yaml.Scalar.ofPlain e.2).isText then e.2 else "'" ++ e.2 ++ "'") ∧
      (s.isEmpty → document = "# EditorConfig properties\n") ∧
      Yaml.read? document = some (es.map fun e => (e.1, .text e.2)) := by
  obtain ⟨text, ht⟩ := hs.exists_spelledBy h.sound
  have hentries := ht.entries_eq h.sound
  have hbare : ∀ e ∈ StandardProperty.listed text, Yaml.BarePair e := by
    intro e he
    obtain ⟨p, v, hkey, hspells⟩ := ht.exists_spells h.sound e he
    have hpair := p.barePair_key hspells.bare
    rwa [hkey] at hpair
  have hyaml : s.yaml dump cat =
      .ok ("# EditorConfig properties\n" ++ Yaml.rows scalar (StandardProperty.listed text)) := by
    rw [Settings.yaml, hentries]
    cases hes : StandardProperty.listed text with
    | nil => rfl
    | cons e rest =>
      rw [hes] at hbare
      have hkeys : ((e :: rest).map Prod.fst).Nodup := hes ▸ (Properties.ofTexts text).nodup
      have hjoined := Yaml.join_stripped hd hbare (List.cons_ne_nil e rest) hkeys
      rw [← hjoined]
      rfl
  -- All that is left is about the entries as pairs of words.
  refine ⟨_, _, hentries, hyaml, rfl, fun e he => hd.scalar_eq (hbare e he).value,
    fun hempty => ?_, Yaml.read?_document hd hbare⟩
  rw [ht.isEmpty_iff.1 hempty]
  rfl

/-- Values of every kind, among them sentinels that differ in how they look to a reader. -/
def documentEntries : List (Value × Value) :=
  [(.text "max_line_length", .explicitNone), (.text "root", .bool true),
    (.text "trim_trailing_whitespace", .bool false), (.text "tab_width", .int 0),
    (.text "indent_size", .explicitNone), (.text "charset", .text "utf-8")]

/-- Of two sentinels only the one is quoted that is a truth value to a reader. -/
theorem Settings.Produced.yaml_reads_mixed :
    ∃ s, ofMapping Catalog.initial documentEntries = .ok s ∧ s.Produced ∧
      Catalog.twice.Reachable ∧
      ∃ document, s.yaml Yaml.dump Catalog.twice = .ok document ∧
        document = "# EditorConfig properties\n" ++ "indent_size: tab\n" ++ "tab_width: '0'\n" ++
          "charset: utf-8\n" ++ "trim_trailing_whitespace: 'false'\n" ++
          "max_line_length: 'off'\n" ∧
        Yaml.read? document = some [("indent_size", .text "tab"), ("tab_width", .text "0"),
          ("charset", .text "utf-8"), ("trim_trailing_whitespace", .text "false"),
          ("max_line_length", .text "off")] := by
  obtain ⟨s, hs, hentries⟩ : ∃ s, ofMapping Catalog.initial documentEntries = .ok s ∧
      s.entries Catalog.twice = .ok [("indent_size", "tab"), ("tab_width", "0"),
        ("charset", "utf-8"), ("trim_trailing_whitespace", "false"),
        ("max_line_length", "off")] := ⟨_, rfl, rfl⟩
  have hproduced : s.Produced := .built .initial hs
  obtain ⟨es, document, hes, hdocument, hlines, -, -, hread⟩ :=
    hproduced.yaml_reads Yaml.dumps_dump Catalog.reachable_twice
  obtain rfl := Except.ok.inj (hes.symm.trans hentries)
  exact ⟨s, hs, hproduced, Catalog.reachable_twice, document, hdocument,
    hlines.trans (by decide +kernel), hread⟩

end EditorConfig
