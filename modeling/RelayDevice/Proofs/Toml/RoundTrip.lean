import RelayDevice.Toml.Document
import RelayDevice.Toml.Printer

/-!
# Tables of texts read back

A table is written as one line per entry, a key and a text between quotes. A key is any text at all,
written in the plainest of three forms that can hold it: bare, between quotes with escapes, or
between apostrophes. Each form is read back by the reader that its first character selects
(`Toml.key_keyText`), and all that the reader of a line has to know of a key is that character
(`Toml.Opens`): it is none that would make the line a header, a comment or a blank one.

* `Toml.basicText_flatMap_escaped`, `Toml.literalText_append` — texts in quotes and in apostrophes;
* `Toml.line_entryLine` — one line; `Toml.lines_entries` — several, by induction on the entries;
* `Toml.document?_entries` — a whole file is read as the entries that were written, provided that no
  key comes twice.
-/

namespace RelayDevice

namespace Toml

/-! ### Texts -/

/-- The number of an escaped character is read back from its two digits. -/
theorem numbered_digits : ∀ n < 128, numbered ['0', '0', (Nat.digitChar (n / 16)).toUpper,
    (Nat.digitChar (n % 16)).toUpper] = some (Char.ofNat n) := by
  decide

/-- A character that is neither escaped by a letter nor a control character stands as it is. -/
theorem isPlain_of_not_isControl {c : Char} (h : isControl c = false) : isPlain c = true := by
  rw [isControl, Bool.and_eq_false_iff] at h
  rw [isPlain, Bool.or_eq_true]
  rcases h with tab | other
  · exact .inl (by simpa using tab)
  · right
    simp only [Bool.or_eq_false_iff, decide_eq_false_iff_not, beq_eq_false_iff_ne] at other
    simp only [Bool.and_eq_true, decide_eq_true_eq, bne_iff_ne]
    omega

theorem basicText_cons {c : Char} (noQuote : c ≠ '"') (noEscape : c ≠ '\\')
    (plain : isPlain c = true) (rest : List Char) :
    basicText (c :: rest) = (basicText rest).map fun (cs, rest) => (c :: cs, rest) := by
  rw [basicText]
  · rw [if_pos plain]
  · exact noQuote
  · exact noEscape

theorem basicText_escape {c : Char} {s rest : List Char} (read : escape s = some (c, rest)) :
    basicText ('\\' :: s) = (basicText rest).map fun (cs, rest) => (c :: cs, rest) := by
  rw [basicText]
  split
  · next failed =>
    rw [read] at failed
    cases failed
  · next c' rest' read' =>
    rw [read] at read'
    obtain ⟨rfl, rfl⟩ := Prod.mk.inj (Option.some.inj read')
    rfl

/-- **One character** between quotes. -/
theorem basicText_escaped (c : Char) (rest : List Char) :
    basicText (escaped c ++ rest) = (basicText rest).map fun (cs, rest) => (c :: cs, rest) := by
  unfold escaped
  split
  -- seven characters have a letter of their own
  iterate 7 exact basicText_escape rfl
  next noBack noTab noLine noFeed noReturn noQuote noEscape =>
    split
    · next control =>
      have small : c.toNat < 128 := by
        simp only [isControl, Bool.and_eq_true, Bool.or_eq_true, decide_eq_true_eq, beq_iff_eq]
          at control
        omega
      refine basicText_escape ?_
      change (numbered _).map (·, rest) = _
      rw [numbered_digits _ small, Char.ofNat_toNat]
      rfl
    · next control =>
      exact basicText_cons noQuote noEscape
        (isPlain_of_not_isControl (Bool.eq_false_iff.2 control)) rest

theorem basicText_flatMap_escaped (cs rest : List Char) :
    basicText (cs.flatMap escaped ++ '"' :: rest) = some (cs, rest) := by
  induction cs with
  | nil => rw [List.flatMap_nil, List.nil_append, basicText]
  | cons c cs ih =>
    rw [List.flatMap_cons, List.append_assoc, basicText_escaped, ih]
    rfl

/-- Characters that stand between quotes as they are. -/
def NeedsNoEscape (cs : List Char) : Prop := ∀ c ∈ cs, escaped c = [c]

theorem basicText_append {cs : List Char} (plain : NeedsNoEscape cs) (rest : List Char) :
    basicText (cs ++ '"' :: rest) = some (cs, rest) := by
  have same : cs.flatMap escaped = cs := by
    rw [List.flatMap_def, List.map_congr_left plain, ← List.flatMap_def]
    exact List.flatMap_singleton' cs
  have read := basicText_flatMap_escaped cs rest
  rwa [same] at read

theorem literalText_append {cs : List Char} (plain : ∀ c ∈ cs, isPlain c = true ∧ c ≠ '\'')
    (rest : List Char) : literalText (cs ++ '\'' :: rest) = some (cs, rest) := by
  induction cs with
  | nil => rfl
  | cons c cs ih =>
    obtain ⟨stands, other⟩ := plain c List.mem_cons_self
    rw [List.cons_append, literalText, if_pos stands,
      ih fun d among => plain d (List.mem_cons_of_mem c among)]
    · rfl
    · exact other

/-! ### Keys -/

/-- Whether a line whose first character is this one begins with a key. -/
def Opens (c : Char) : Prop := isBare c = true ∨ c = '"' ∨ c = '\''

/-- A character that opens a line is none of those that make the line something else. -/
theorem Opens.ne {c other : Char} (opens : Opens c)
    (another : isBare other = false ∧ other ≠ '"' ∧ other ≠ '\'') : c ≠ other := by
  rintro rfl
  rcases opens with bare | quote | apostrophe
  · exact Bool.false_ne_true (another.1.symm.trans bare)
  · exact another.2.1 quote
  · exact another.2.2 apostrophe

theorem Opens.skipGaps {c : Char} (opens : Opens c) (rest : List Char) :
    skipGaps (c :: rest) = c :: rest := by
  have blank : c ≠ ' ' := opens.ne (by decide)
  have tab : c ≠ '\t' := opens.ne (by decide)
  have noGap : isGap c = false := by simp [isGap, blank, tab]
  rw [Toml.skipGaps, List.dropWhile_cons, noGap, if_neg Bool.false_ne_true]

/-- A key that is not bare. -/
theorem keyText_of_not_bare {s : String}
    (other : (!s.toList.isEmpty && s.toList.all isBare) = false) :
    keyText s = basic s ∨
      keyText s = literal s ∧ ∀ c ∈ s.toList, isPlain c = true ∧ c ≠ '\'' := by
  unfold keyText
  dsimp only
  rw [other, if_neg Bool.false_ne_true]
  split
  · exact .inl rfl
  next noControl =>
    split
    · exact .inl rfl
    split
    next noApostrophe =>
      refine .inr ⟨rfl, fun c among => ⟨isPlain_of_not_isControl ?_, ?_⟩⟩
      · rw [List.any_eq_true] at noControl
        exact Bool.eq_false_iff.2 fun control => noControl ⟨c, among, control⟩
      · exact bne_iff_ne.1 (List.all_eq_true.1 noApostrophe c among)
    · exact .inl rfl

theorem toList_basic (s : String) :
    (basic s).toList = '"' :: (s.toList.flatMap escaped ++ ['"']) := by
  rw [basic, String.toList_ofList]
  rfl

theorem toList_literal (s : String) : (literal s).toList = '\'' :: (s.toList ++ ['\'']) := by
  rw [literal, String.toList_append, String.toList_append]
  rfl

/-- A bare key goes on as far as its characters may stand in one. -/
theorem key_of_bare {c : Char} (bare : isBare c = true) (rest : List Char) :
    key (c :: rest) = some (String.ofList ((c :: rest).takeWhile isBare),
      (c :: rest).dropWhile isBare) := by
  unfold key
  split
  · next quote =>
    obtain ⟨rfl, -⟩ := List.cons.inj quote
    cases bare
  · next apostrophe =>
    obtain ⟨rfl, -⟩ := List.cons.inj apostrophe
    cases bare
  · dsimp only
    rw [List.takeWhile_cons, if_pos bare]
    rfl

/-- **A key read back**, in front of the blank that follows it. -/
theorem key_keyText (s : String) (rest : List Char) :
    key ((keyText s).toList ++ ' ' :: rest) = some (s, ' ' :: rest) := by
  cases bare : !s.toList.isEmpty && s.toList.all isBare with
  | true =>
    rw [keyText, bare, if_pos rfl]
    obtain ⟨nonempty, all⟩ := Bool.and_eq_true_iff.1 bare
    have allBare : ∀ c ∈ s.toList, isBare c = true := List.all_eq_true.1 all
    -- the blank ends the key, and nothing before it does
    have taken : (s.toList ++ ' ' :: rest).takeWhile isBare = s.toList := by
      rw [List.takeWhile_append_of_pos allBare]
      simp [isBare]
    have left : (s.toList ++ ' ' :: rest).dropWhile isBare = ' ' :: rest := by
      rw [List.dropWhile_append_of_pos allBare]
      simp [isBare]
    cases chars : s.toList with
    | nil =>
      rw [chars] at nonempty
      cases nonempty
    | cons c cs =>
      rw [chars] at taken left
      have first : isBare c = true := allBare c (by rw [chars]; exact List.mem_cons_self)
      rw [List.cons_append] at taken left ⊢
      rw [key_of_bare first, taken, left, ← chars, String.ofList_toList]
  | false =>
    rcases keyText_of_not_bare bare with quoted | ⟨literally, plain⟩
    · rw [quoted, toList_basic, List.cons_append, List.append_assoc]
      change (basicText _).map _ = _
      rw [List.singleton_append, basicText_flatMap_escaped]
      exact congrArg (fun t => some (t, ' ' :: rest)) String.ofList_toList
    · rw [literally, toList_literal, List.cons_append, List.append_assoc]
      change (literalText _).map _ = _
      rw [List.singleton_append, literalText_append plain]
      exact congrArg (fun t => some (t, ' ' :: rest)) String.ofList_toList

/-- The first character of a key. -/
theorem exists_toList_keyText (s : String) :
    ∃ c cs, (keyText s).toList = c :: cs ∧ Opens c := by
  cases bare : !s.toList.isEmpty && s.toList.all isBare with
  | true =>
    rw [keyText, bare, if_pos rfl]
    obtain ⟨nonempty, all⟩ := Bool.and_eq_true_iff.1 bare
    cases chars : s.toList with
    | nil =>
      rw [chars] at nonempty
      cases nonempty
    | cons c cs =>
      rw [chars, List.all_cons, Bool.and_eq_true] at all
      exact ⟨c, cs, rfl, .inl all.1⟩
  | false =>
    rcases keyText_of_not_bare bare with quoted | ⟨literally, -⟩
    · exact ⟨_, _, quoted ▸ toList_basic s, .inr (.inl rfl)⟩
    · exact ⟨_, _, literally ▸ toList_literal s, .inr (.inr rfl)⟩

/-! ### Lines -/

/-- The quote that opens a text on one line is not the first of three. -/
theorem quotedText_append {cs : List Char} (plain : NeedsNoEscape cs) (rest : List Char) :
    quotedText ('"' :: (cs ++ '"' :: '\n' :: rest)) = some (cs, '\n' :: rest) := by
  have read := basicText_append plain ('\n' :: rest)
  cases cs with
  | nil => exact read
  | cons c cs =>
    have noQuote : c ≠ '"' := by
      rintro rfl
      exact absurd (plain '"' List.mem_cons_self) (by decide)
    rw [List.cons_append] at read ⊢
    unfold quotedText
    split
    · next three =>
      exact absurd (List.cons.inj (List.cons.inj three).2).1 noQuote
    · next one =>
      rw [← (List.cons.inj one).2]
      exact read
    · next apostrophe => exact absurd (List.cons.inj apostrophe).1 (by decide)
    · next apostrophe => exact absurd (List.cons.inj apostrophe).1 (by decide)
    · next _ another _ _ => exact absurd rfl (another _)

theorem value_text (depth : Nat) {cs : List Char} (plain : NeedsNoEscape cs) (rest : List Char) :
    value depth ('"' :: (cs ++ '"' :: '\n' :: rest))
      = some (.text (String.ofList cs), '\n' :: rest) := by
  have byQuote : value depth ('"' :: (cs ++ '"' :: '\n' :: rest))
      = (quotedText ('"' :: (cs ++ '"' :: '\n' :: rest))).map
        fun (cs, rest) => (.text (String.ofList cs), rest) := by
    cases depth <;> rfl
  rw [byQuote, quotedText_append plain]
  rfl

theorem toList_entryLine (k plain : String) :
    (entryLine k plain).toList
      = (keyText k).toList ++ ' ' :: '=' :: ' ' :: '"' :: (plain.toList ++ ['"', '\n']) := by
  simp [entryLine, String.toList_append]

/-- **An entry.** -/
theorem entry_keyText {item : Scan Toml} (k : String) {text rest : List Char} {v : Toml}
    (read : item ('"' :: text) = some (v, rest)) :
    entry item ((keyText k).toList ++ ' ' :: '=' :: ' ' :: '"' :: text)
      = some ((⟨[], k⟩, v), rest) := by
  obtain ⟨c, cs, chars, opens⟩ := exists_toList_keyText k
  have named : keys depthLimit ((keyText k).toList ++ ' ' :: '=' :: ' ' :: '"' :: text)
      = some ([k], '=' :: ' ' :: '"' :: text) := by
    rw [depthLimit, keys]
    rw [chars, List.cons_append, opens.skipGaps, ← List.cons_append, ← chars, key_keyText]
    rfl
  have valued : item (skipGaps (' ' :: '"' :: text)) = some (v, rest) := read
  rw [entry, named]
  change (item (skipGaps (' ' :: '"' :: text))).bind _ = _
  rw [valued]
  rfl

/-- A line that begins with a key is an entry. -/
theorem line_of_opens (d : Draft) {c : Char} (opens : Opens c) (s : List Char) :
    line d (c :: s) = (entry (value depthLimit) (c :: s)).bind fun ((path, v), rest) =>
      (endLine rest).bind fun rest => (d.assign path v).map (·, rest) := by
  have noHeader : c ≠ '[' := opens.ne (by decide)
  unfold line
  split
  · next header => exact absurd (List.cons.inj header).1 noHeader
  · next header => exact absurd (List.cons.inj header).1 noHeader
  · cases entry (value depthLimit) (c :: s) with
    | none => rfl
    | some read =>
      obtain ⟨⟨path, v⟩, rest⟩ := read
      change ((endLine rest).bind _) = ((endLine rest).bind _)
      cases endLine rest with
      | none => rfl
      | some rest => cases d.assign path v <;> rfl

/-- **One line.** A key that the table does not have yet is entered behind the others. -/
theorem line_entryLine {d : Draft} {k plain : String} (noEscape : NeedsNoEscape plain.toList)
    (fresh : k ∉ d.current.map (·.1)) (rest : List Char) :
    line d ((entryLine k plain).toList ++ rest)
      = some ({ d with current := d.current ++ [(k, .text plain)] }, rest) := by
  obtain ⟨c, cs, chars, opens⟩ := exists_toList_keyText k
  have read : entry (value depthLimit) ((entryLine k plain).toList ++ rest)
      = some ((⟨[], k⟩, .text plain), '\n' :: rest) := by
    have valued := value_text depthLimit noEscape rest
    rw [String.ofList_toList] at valued
    have entered := entry_keyText k valued
    rw [toList_entryLine]
    simpa using entered
  have assigned : d.assign ⟨[], k⟩ (.text plain)
      = some { d with current := d.current ++ [(k, .text plain)] } := by
    have absent : d.current.any (·.1 = k) = false := by
      rw [Bool.eq_false_iff, ne_eq, List.any_eq_true]
      rintro ⟨m, among, same⟩
      exact fresh (List.mem_map.2 ⟨m, among, of_decide_eq_true same⟩)
    rw [Draft.assign, Members.assign, Members.define, absent]
    rfl
  have first : ∃ s, (entryLine k plain).toList ++ rest = c :: s := by
    rw [toList_entryLine, chars]
    exact ⟨_, rfl⟩
  obtain ⟨s, first⟩ := first
  rw [first] at read ⊢
  rw [line_of_opens d opens, read]
  change (d.assign ⟨[], k⟩ (.text plain)).map (·, rest) = _
  rw [assigned]
  rfl

/-- A line that begins with a key is neither blank nor a comment. -/
theorem lines_of_opens (fuel : Nat) (d : Draft) {c : Char} (opens : Opens c) (s : List Char) :
    lines (fuel + 1) d (c :: s) = (line d (c :: s)).bind fun (d, rest) => lines fuel d rest := by
  rw [lines, opens.skipGaps]
  split
  · next blank => cases blank
  · next newline => exact absurd (List.cons.inj newline).1 (opens.ne (by decide))
  · next newline => exact absurd (List.cons.inj newline).1 (opens.ne (by decide))
  · next comment => exact absurd (List.cons.inj comment).1 (opens.ne (by decide))
  · cases line d (c :: s) <;> rfl

/-- The lines of several entries. -/
def entryLines (entries : List (String × String)) : List Char :=
  entries.flatMap fun e => (entryLine e.1 e.2).toList

/-- The first character of a line. -/
theorem exists_toList_entryLine (k plain : String) (rest : List Char) :
    ∃ c s, (entryLine k plain).toList ++ rest = c :: s ∧ Opens c ∧ rest.length ≤ s.length := by
  obtain ⟨c, cs, chars, opens⟩ := exists_toList_keyText k
  rw [toList_entryLine, chars]
  refine ⟨c, cs ++ (' ' :: '=' :: ' ' :: '"' :: (plain.toList ++ ['"', '\n']) ++ rest), ?_, opens,
    ?_⟩
  · rw [List.cons_append, List.cons_append, List.append_assoc]
  · rw [List.length_append, List.length_append, ← Nat.add_assoc]
    exact Nat.le_add_left _ _

/-- **Several lines**, by induction on the entries. The steps that are left suffice, because every
line has a character. -/
theorem lines_entries {entries : List (String × String)} {d : Draft} {fuel : Nat}
    (noEscape : ∀ e ∈ entries, NeedsNoEscape e.2.toList)
    (fresh : (d.current.map (·.1) ++ entries.map (·.1)).Nodup)
    (enough : (entryLines entries).length < fuel) :
    lines fuel d (entryLines entries)
      = some { d with current := d.current ++ entries.map fun e => (e.1, .text e.2) } := by
  induction entries generalizing d fuel with
  | nil =>
    obtain ⟨fuel, rfl⟩ := Nat.exists_eq_add_of_lt enough
    rw [List.map_nil, List.append_nil]
    rfl
  | cons e entries ih =>
    obtain ⟨c, s, chars, opens, shorter⟩ := exists_toList_entryLine e.1 e.2 (entryLines entries)
    have split : entryLines (e :: entries) = (entryLine e.1 e.2).toList ++ entryLines entries :=
      List.flatMap_cons
    rw [split, chars, List.length_cons] at enough
    obtain ⟨fuel, rfl⟩ : ∃ more, fuel = more + 1 := ⟨fuel - 1, by omega⟩
    have absent : e.1 ∉ d.current.map (·.1) := fun before =>
      (List.nodup_append.1 fresh).2.2 e.1 before e.1 List.mem_cons_self rfl
    have first := line_entryLine (noEscape e List.mem_cons_self) absent (entryLines entries)
    rw [chars] at first
    rw [split, chars, lines_of_opens fuel d opens, first]
    change lines fuel _ (entryLines entries) = _
    rw [ih]
    · rw [List.map_cons, List.append_assoc, List.singleton_append]
    · exact fun e' among => noEscape e' (List.mem_cons_of_mem e among)
    · rw [List.map_append, List.append_assoc]
      exact fresh
    · omega

/-- **A file of entries** is read as these entries, in their order. -/
theorem document?_entries {entries : List (String × String)}
    (noEscape : ∀ e ∈ entries, NeedsNoEscape e.2.toList) (distinct : (entries.map (·.1)).Nodup) :
    document? (String.join (entries.map fun e => entryLine e.1 e.2))
      = some (entries.map fun e => (e.1, .text e.2)) := by
  have chars : (String.join (entries.map fun e => entryLine e.1 e.2)).toList
      = entryLines entries := by
    rw [String.toList_join, List.flatMap_map, entryLines]
  -- no key begins with a byte order mark
  have marked : unmarked (entryLines entries) = entryLines entries := by
    cases entries with
    | nil => rfl
    | cons e entries =>
      obtain ⟨c, s, first, opens, -⟩ := exists_toList_entryLine e.1 e.2 (entryLines entries)
      have split : entryLines (e :: entries) = c :: s := List.flatMap_cons.trans first
      rw [split]
      unfold unmarked
      split
      · next mark => exact absurd (List.cons.inj mark).1 (opens.ne (by decide))
      · rfl
  rw [document?, chars, marked, lines_entries noEscape]
  · rfl
  · exact distinct
  · exact Nat.lt_succ_self _

end Toml

end RelayDevice
