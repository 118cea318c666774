import Mathlib.Data.Set.List
import RunSweep.Command
import RunSweep.Proofs.Text.Encoding

/-!
# Reading a command back

A command is shown on one line, for the log. Nothing is lost by that as long as its words are texts:
`readLine` finds the words again, knowing nothing of the command. A word that starts with a single quote goes
on to the quote that closes it, and `'\''` inside stands for a quote; any other word is as it stands, and
goes on to the next space.

The reason is one property of a shown word, `readWord_renderWord`: if a space or nothing stands behind it, it
is what is read from the front of the line. In quotes the space is needed too, for a quote that a backslash
follows does not close.
-/

namespace RunSweep.Command

/-! ## The reader -/

/-- What stands between single quotes, read from behind the first of them, and what follows the last. -/
def readQuoted : List Char → Option (List Char × List Char)
  | [] => none
  | '\'' :: '\\' :: '\'' :: '\'' :: rest =>
      (readQuoted rest).map fun (word, behind) => ('\'' :: word, behind)
  | '\'' :: rest => some ([], rest)
  | c :: rest => (readQuoted rest).map fun (word, behind) => (c :: word, behind)

/-- The first word of a line, and what follows it. -/
def readWord : List Char → Option (List Char × List Char)
  | '\'' :: rest => readQuoted rest
  | line => some (line.takeWhile (· != ' '), line.dropWhile (· != ' '))

variable {line word behind rest : List Char}

theorem readQuoted_length_le (h : readQuoted line = some (word, behind)) :
    behind.length ≤ line.length := by
  fun_induction readQuoted line generalizing word with
  | case1 => cases h
  | case2 rest ih =>
      obtain ⟨⟨inner, _⟩, hinner, heq⟩ := Option.map_eq_some_iff.mp h
      cases heq
      have hrest := ih hinner
      simp only [List.length_cons]
      omega
  | case3 rest =>
      cases h
      exact Nat.le_succ _
  | case4 c rest _ _ ih =>
      obtain ⟨⟨inner, _⟩, hinner, heq⟩ := Option.map_eq_some_iff.mp h
      cases heq
      exact Nat.le_succ_of_le (ih hinner)

theorem readWord_length_le (h : readWord line = some (word, behind)) :
    behind.length ≤ line.length := by
  unfold readWord at h
  split at h
  · exact Nat.le_succ_of_le (readQuoted_length_le h)
  · cases h
    exact (List.dropWhile_sublist _).length_le

/-- **The words of a line**, which have a single space in between. -/
def readWords (line : List Char) : Option (List (List Char)) :=
  match _ : readWord line with
  | some (word, []) => some [word]
  | some (word, ' ' :: rest) => (readWords rest).map (word :: ·)
  | _ => none
termination_by line.length
decreasing_by
  exact readWord_length_le ‹_›

/-- The texts that a line shows. -/
def readLine (line : String) : Option (List String) :=
  (readWords line.toList).map fun words => words.map String.ofList

theorem readWords_of_last (h : readWord line = some (word, [])) : readWords line = some [word] := by
  rw [readWords]
  split <;> simp_all

theorem readWords_of_space (h : readWord line = some (word, ' ' :: rest)) :
    readWords line = (readWords rest).map (word :: ·) := by
  rw [readWords]
  split <;> simp_all

/-! ## One word -/

/-- What stands in quotes is read up to the closing quote, unless a backslash follows that one. -/
theorem readQuoted_flatMap (word : List Char) (hrest : rest.head? ≠ some '\\') :
    readQuoted (word.flatMap quoteChar ++ '\'' :: rest) = some (word, rest) := by
  induction word with
  | nil =>
      rw [List.flatMap_nil, List.nil_append, readQuoted]
      rintro tail rfl
      exact hrest rfl
  | cons c cs ih =>
      rw [List.flatMap_cons, List.append_assoc, quoteChar]
      split_ifs with hc
      · rw [hc]
        show readQuoted ('\'' :: '\\' :: '\'' :: '\'' :: (cs.flatMap quoteChar ++ '\'' :: rest)) = _
        rw [readQuoted, ih]
        rfl
      · rw [List.singleton_append, readQuoted, ih]
        · rfl
        · exact fun _ h _ => absurd h hc
        · exact fun h => absurd h hc

/-- A word that is shown as it stands has no quote in front, and no space at all. -/
theorem readWord_literal (hword : needsQuotes word = false)
    (hrest : rest = [] ∨ rest.head? = some ' ') : readWord (word ++ rest) = some (word, rest) := by
  simp only [needsQuotes, Bool.or_eq_false_iff, List.any_eq_false, Bool.or_eq_true, not_or,
    beq_iff_eq] at hword
  obtain ⟨hne, hplain⟩ := hword
  obtain ⟨first, more, rfl⟩ := List.exists_cons_of_ne_nil (List.isEmpty_eq_false_iff.mp hne)
  have hspace : ∀ c ∈ first :: more, (c != ' ') = true := by
    intro c hc
    rw [bne_iff_ne]
    rintro rfl
    exact (hplain _ hc).1.1 rfl
  have hend : rest.takeWhile (· != ' ') = [] ∧ rest.dropWhile (· != ' ') = rest := by
    rcases rest with _ | ⟨c, tail⟩
    · exact ⟨rfl, rfl⟩
    · obtain rfl : c = ' ' := by simpa using hrest
      exact ⟨rfl, rfl⟩
  rw [List.cons_append, readWord]
  · rw [← List.cons_append, List.takeWhile_append_of_pos hspace, List.dropWhile_append_of_pos hspace,
      hend.1, hend.2, List.append_nil]
  · intro tail hfirst
    exact (hplain _ List.mem_cons_self).1.2 (List.cons.inj hfirst).1

/-- **A shown word is read as the word**, if a space or nothing follows it. -/
theorem readWord_renderWord (word : List Char) (hrest : rest = [] ∨ rest.head? = some ' ') :
    readWord (renderWord word ++ rest) = some (word, rest) := by
  unfold renderWord
  split_ifs with hquotes
  -- what may follow the closing quote is a space, so it is not taken for a quote inside
  · have hend : rest.head? ≠ some '\\' := by
      rcases hrest with rfl | hspace
      · simp
      · simp [hspace]
    rw [List.append_assoc]
    exact readQuoted_flatMap word hend
  · exact readWord_literal (Bool.not_eq_true _ ▸ hquotes) hrest

/-! ## The whole line -/

theorem readWords_intercalate (first : List Char) (others : List (List Char)) :
    readWords ([' '].intercalate ((first :: others).map renderWord)) = some (first :: others) := by
  induction others generalizing first with
  | nil =>
      have hread := readWord_renderWord first (.inl rfl)
      rw [List.append_nil] at hread
      simpa using readWords_of_last hread
  | cons second others ih =>
      rw [List.map_cons, List.map_cons, List.intercalate_cons_cons, List.append_assoc,
        List.singleton_append, readWords_of_space (readWord_renderWord first (.inr rfl)),
        ← List.map_cons, ih]
      rfl

theorem forall_isText_iff {words : List Bytes} :
    (∀ word ∈ words, Utf8.IsText word) ↔ ∃ texts : List String, texts.map Utf8.encode = words := by
  rw [← Set.mem_range, Set.range_list_map]
  exact forall₂_congr fun word _ => exists_congr fun text => eq_comm

/-- A command that is made of texts is read as those texts. -/
theorem readLine_render {c : Command} {texts : List String} (h : texts.map Utf8.encode = c.words) :
    readLine c.render = some texts := by
  have hne : texts ≠ [] := by
    rintro rfl
    exact List.cons_ne_nil _ _ h.symm
  obtain ⟨first, others, rfl⟩ := List.exists_cons_of_ne_nil hne
  have hshown : (c.words.map fun bytes => renderWord (Utf8.lossy bytes).toList) =
      (first.toList :: others.map String.toList).map renderWord := by
    simp [← h, Function.comp_def]
  rw [readLine, render, String.toList_ofList, hshown, readWords_intercalate]
  simp [Function.comp_def]

/-- Commands are told apart by their words. -/
theorem words_injective : Function.Injective words := by
  rintro ⟨⟨program⟩, args⟩ ⟨⟨program'⟩, args'⟩ h
  obtain ⟨rfl, rfl⟩ := List.cons.inj h
  rfl

/-- **A shown command is read back**, word for word, if its words are texts. So no two such commands are
shown alike. -/
theorem render_reads_back (c : Command) (h : ∀ word ∈ c.words, Utf8.IsText word) :
    (readLine c.render).map (fun texts => texts.map Utf8.encode) = some c.words ∧
      ∀ c' : Command, (∀ word ∈ c'.words, Utf8.IsText word) → c'.render = c.render → c' = c := by
  obtain ⟨texts, htexts⟩ := forall_isText_iff.mp h
  have hread := readLine_render htexts
  constructor
  · rw [hread, Option.map_some, htexts]
  · intro c' h' hsame
    obtain ⟨texts', htexts'⟩ := forall_isText_iff.mp h'
    have hread' := readLine_render htexts'
    rw [hsame, hread] at hread'
    apply words_injective
    rw [← htexts', ← htexts, Option.some.inj hread']

/-- Words that look like shown ones are read back as they are. Two words that have one of the quotes each are
not shown as one word in quotes is. -/
theorem lookalike_words_read_back :
    let puzzling : Command := ⟨.ofText "it's", ["", "a  b", "back\\", "'\\''", "\u3000"].map Utf8.encode⟩
    let one : Command := ⟨.ofText "run", ["a b"].map Utf8.encode⟩
    let two : Command := ⟨.ofText "run", ["'a", "b'"].map Utf8.encode⟩
    (∀ word ∈ puzzling.words ++ one.words ++ two.words, Utf8.IsText word) ∧
      (readLine puzzling.render).map (fun texts => texts.map Utf8.encode) = some puzzling.words ∧
        two.render ≠ one.render := by
  intro puzzling one two
  have hpuzzling : ∀ word ∈ puzzling.words, Utf8.IsText word :=
    forall_isText_iff.mpr ⟨["it's", "", "a  b", "back\\", "'\\''", "\u3000"], rfl⟩
  have hone : ∀ word ∈ one.words, Utf8.IsText word := forall_isText_iff.mpr ⟨["run", "a b"], rfl⟩
  have htwo : ∀ word ∈ two.words, Utf8.IsText word := forall_isText_iff.mpr ⟨["run", "'a", "b'"], rfl⟩
  refine ⟨?_, (render_reads_back puzzling hpuzzling).1, fun hsame => ?_⟩
  · rw [List.forall_mem_append, List.forall_mem_append]
    exact ⟨⟨hpuzzling, hone⟩, htwo⟩
  · have hwords := congrArg words ((render_reads_back one hone).2 two htwo hsame)
    exact absurd (congrArg List.length hwords) (by decide)

end RunSweep.Command
