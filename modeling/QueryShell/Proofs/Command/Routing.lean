import QueryShell.Command
import QueryShell.Proofs.Text.Case
import QueryShell.Proofs.Text.Letters
import QueryShell.Proofs.Text.Words

/-!
What decides the command of a statement, and its canonical form. White space around a statement and
the case of its keyword make no difference, and the canonical form of a command is read as that
command again.
-/

namespace QueryShell.Command

open Text

variable {statement : String} {keyword : List Char}

section Keywords

theorem not_quit_of_keyword (plain : 'σ' ∉ keyword ∧ 'ς' ∉ keyword)
    (other : ∀ word ∈ quitWords, ¬keyword <+: word)
    (named : lower (firstWord statement.toList).1 = keyword) :
    lower (trim statement.toList) ∉ quitWords := by
  obtain ⟨others, parts⟩ := firstWord_prefix statement.toList
  obtain ⟨later, lowered⟩ := lower_append (named ▸ plain) others
  intro quits
  apply other _ quits
  rw [← parts, lowered, named]
  exact List.prefix_append _ _

theorem lower_firstWord_of_escape {line : List Char}
    (escaped : trim statement.toList = '!' :: line) :
    (lower (firstWord statement.toList).1).head? = some '!' := by
  have visible : ('!' :: line).takeWhile (fun char => !isBlank char) =
      '!' :: line.takeWhile (fun char => !isBlank char) := List.takeWhile_cons_of_pos (by decide)
  obtain ⟨later, lowered⟩ := lower_cons_of_ascii '!' (by decide)
    (line.takeWhile fun char => !isBlank char)
  simp only [firstWord, escaped, visible, lowered]
  rfl

theorem ofStatement_of_quit (quits : lower (trim statement.toList) ∈ quitWords) :
    ofStatement statement = quit := if_pos quits

theorem ofStatement_of_source (named : lower (firstWord statement.toList).1 = "source".toList) :
    ofStatement statement = source (String.ofList (firstWord statement.toList).2) := by
  have stays := not_quit_of_keyword (by decide) (by decide) named
  simp only [ofStatement, ofTrimmed, firstWord_trim, if_neg stays, if_pos named]

theorem ofStatement_of_list (named : lower (firstWord statement.toList).1 = "list".toList) :
    ofStatement statement =
      list ((words (firstWord statement.toList).2).map String.ofList).head?
        ((words (firstWord statement.toList).2).map String.ofList).tail := by
  have stays := not_quit_of_keyword (by decide) (by decide) named
  have other : ¬lower (firstWord statement.toList).1 = "source".toList := by
    rw [named]
    decide
  simp only [ofStatement, ofTrimmed, firstWord_trim, if_neg stays, if_neg other]
  split
  · rename_i line escaped
    have starts := lower_firstWord_of_escape escaped
    rw [named] at starts
    exact absurd starts (by decide)
  · exact if_pos named

/-- The four rules in the order in which they are tried. -/
theorem ofStatement_cases (statement : String) :
    ofStatement statement = quit ∨
      lower (firstWord statement.toList).1 = "source".toList ∨
      (∃ line, trim statement.toList = '!' :: line ∧
        ofStatement statement = shell (String.ofList line)) ∨
      lower (firstWord statement.toList).1 = "list".toList ∨
      ofStatement statement = query (String.ofList (trim statement.toList)) := by
  by_cases quits : lower (trim statement.toList) ∈ quitWords
  · exact .inl (ofStatement_of_quit quits)
  by_cases sourced : lower (firstWord statement.toList).1 = "source".toList
  · exact .inr (.inl sourced)
  by_cases listed : lower (firstWord statement.toList).1 = "list".toList
  · exact .inr (.inr (.inr (.inl listed)))
  simp only [ofStatement, ofTrimmed, firstWord_trim, if_neg quits, if_neg sourced]
  split
  · rename_i line escaped
    exact .inr (.inr (.inl ⟨line, escaped, rfl⟩))
  · exact .inr (.inr (.inr (.inr (if_neg listed))))

end Keywords

section Canonical

def canonical : Command → String
  | quit => "quit"
  | source path => "source " ++ path
  | shell line => "!" ++ line
  | list kind values => String.intercalate " " ("list" :: (kind.toList ++ values))
  | query text => text

theorem ofStatement_trimmed (statement : String) :
    ofStatement (trimmed statement) = ofStatement statement := by
  rw [ofStatement, ofStatement, trimmed, String.toList_ofList, trim_trim]

theorem ofStatement_canonical_source {path : List Char} (trims : trim path = path) :
    ofStatement (canonical (source (String.ofList path))) = source (String.ofList path) := by
  have text : (canonical (source (String.ofList path))).toList =
      [] ++ "source".toList ++ ' ' :: path := by
    simp [canonical, String.toList_append]
  have listed : "source".toList ∈ words "source".toList := by decide
  have parted : ∀ char ∈ (' ' :: path).head?, isBlank char = true := by
    rintro char ⟨rfl⟩
    rfl
  have behind : trim (' ' :: path) = path := by
    rw [← List.singleton_append, trim_blank_append (List.forall_mem_singleton.mpr rfl), trims]
  have leads : firstWord (canonical (source (String.ofList path))).toList =
      ("source".toList, path) := by
    rw [text, firstWord_eq (List.forall_mem_nil _) (isWord_of_mem_words listed) parted, behind]
  have kept : lower "source".toList = "source".toList := by decide
  have named : lower (firstWord (canonical (source (String.ofList path))).toList).1 =
      "source".toList := by rw [leads, kept]
  rw [ofStatement_of_source named, leads]

theorem ofStatement_canonical_list {listed : List (List Char)}
    (solid : ∀ word ∈ listed, IsWord word) :
    ofStatement (canonical (list (listed.map String.ofList).head? (listed.map String.ofList).tail)) =
      list (listed.map String.ofList).head? (listed.map String.ofList).tail := by
  have keyword : "list".toList ∈ words "list".toList := by decide
  have kept : lower "list".toList = "list".toList := by decide
  have joined (texts : List String) : texts.head?.toList ++ texts.tail = texts := by
    cases texts <;> rfl
  have same : (listed.map String.ofList).map String.toList = listed := by
    rw [List.map_map]
    exact List.map_id'' (fun text => String.toList_ofList) listed
  have text : words (canonical (list (listed.map String.ofList).head?
      (listed.map String.ofList).tail)).toList = "list".toList :: listed := by
    rw [canonical, joined, String.toList_intercalate, List.map_cons, same]
    exact words_intercalate (List.forall_mem_cons.mpr ⟨isWord_of_mem_words keyword, solid⟩)
  obtain ⟨leads, behind⟩ := firstWord_of_words text
  have named : lower (firstWord (canonical (list (listed.map String.ofList).head?
      (listed.map String.ofList).tail)).toList).1 = "list".toList := by rw [leads, kept]
  rw [ofStatement_of_list named, behind]

theorem ofStatement_canonical (statement : String) :
    ofStatement (canonical (ofStatement statement)) = ofStatement statement := by
  rcases ofStatement_cases statement with quits | sourced | ⟨line, escaped, shells⟩ | listed | queries
  · rw [quits]
    decide +kernel
  · rw [ofStatement_of_source sourced]
    exact ofStatement_canonical_source (trim_trim _)
  · have text : canonical (shell (String.ofList line)) = trimmed statement := by
      rw [trimmed, escaped, canonical]
      exact (String.ofList_append ..).symm
    rw [shells, text, ofStatement_trimmed, shells]
  · rw [ofStatement_of_list listed]
    exact ofStatement_canonical_list fun word member => isWord_of_mem_words member
  · have text : canonical (query (String.ofList (trim statement.toList))) = trimmed statement := rfl
    rw [queries, text, ofStatement_trimmed, queries]

example : canonical (ofStatement "\u3000LiSt\tJARS  a.jar ! ") = "list JARS a.jar !" := by
  decide +kernel

end Canonical

section Normalisation

def SameLetters (first second : String) : Prop :=
  lowerAscii first.toList = lowerAscii second.toList

structure Leads (before word after : String) : Prop where
  blanks : ∀ char ∈ before.toList, isBlank char = true
  word : IsWord word.toList
  parted : ∀ char ∈ after.toList.head?, isBlank char = true

theorem lower_of_sameLetters {text other : List Char} (same : lowerAscii text = lowerAscii other) :
    lower text = lower other := by
  rw [← lower_lowerAscii, same, lower_lowerAscii]

theorem isWord_of_sameLetters {text other : List Char} (same : lowerAscii text = lowerAscii other)
    (word : IsWord other) : IsWord text := by
  have blank : ∀ char ∈ lowerAscii text, isBlank char = false := by
    rw [same]
    intro char member
    obtain ⟨letter, within, rfl⟩ := List.mem_map.mp member
    rw [isBlank_toLower]
    exact word.visible letter within
  constructor
  · rintro rfl
    exact word.filled (List.map_eq_nil_iff.mp same.symm)
  · intro char member
    rw [← isBlank_toLower]
    exact blank _ (List.mem_map_of_mem member)

theorem Leads.firstWord_eq {before word after : String} (leads : Leads before word after) :
    firstWord (before ++ word ++ after).toList = (word.toList, trim after.toList) := by
  rw [String.toList_append, String.toList_append]
  exact Text.firstWord_eq leads.blanks leads.word leads.parted

theorem ofStatement_blank_append {before after : String} (front : isBlankText before = true)
    (back : isBlankText after = true) (statement : String) :
    ofStatement (before ++ statement ++ after) = ofStatement statement := by
  rw [ofStatement, String.toList_append, String.toList_append,
    trim_append_blank (List.all_eq_true.mp back), trim_blank_append (List.all_eq_true.mp front),
    ← ofStatement]

theorem ofStatement_eq_quit {other : String} (same : SameLetters other statement)
    (quits : lower (trim statement.toList) ∈ quitWords) : ofStatement other = quit := by
  apply ofStatement_of_quit
  have trimmed : lowerAscii (trim other.toList) = lowerAscii (trim statement.toList) := by
    rw [← trim_lowerAscii, same, trim_lowerAscii]
  rwa [lower_of_sameLetters trimmed]

theorem ofStatement_keyword_congr {before word other after : String}
    (leads : Leads before word after) (same : SameLetters other word)
    (keyword : lower word.toList = "source".toList ∨ lower word.toList = "list".toList) :
    ofStatement (before ++ other ++ after) = ofStatement (before ++ word ++ after) := by
  have also : Leads before other after :=
    ⟨leads.blanks, isWord_of_sameLetters same leads.word, leads.parted⟩
  have lowered : lower other.toList = lower word.toList := lower_of_sameLetters same
  rcases keyword with named | named
  · rw [ofStatement_of_source (by rw [also.firstWord_eq, lowered, named]),
      ofStatement_of_source (by rw [leads.firstWord_eq, named]), also.firstWord_eq,
      leads.firstWord_eq]
  · rw [ofStatement_of_list (by rw [also.firstWord_eq, lowered, named]),
      ofStatement_of_list (by rw [leads.firstWord_eq, named]), also.firstWord_eq,
      leads.firstWord_eq]

/-- What a statement can be written as without a change of its command. -/
structure IsStable (statement : String) : Prop where
  blanks : ∀ before after : String, isBlankText before = true → isBlankText after = true →
    ofStatement (before ++ statement ++ after) = ofStatement statement
  quits : lowered (trimmed statement) ∈ ["quit", "exit"] →
    ∀ other, SameLetters other statement → ofStatement other = ofStatement statement
  keyword : ∀ before word after : String, statement = before ++ word ++ after →
    Leads before word after → lowered word ∈ ["source", "list"] →
    ∀ other, SameLetters other word →
      ofStatement (before ++ other ++ after) = ofStatement statement
  reread : ofStatement (canonical (ofStatement statement)) = ofStatement statement

theorem ofStatement_isStable (statement : String) : IsStable statement where
  blanks before after front back := ofStatement_blank_append front back statement
  quits named other same := by
    have words : lower (trim statement.toList) ∈ quitWords := by
      have among := List.mem_map_of_mem (f := String.toList) named
      rw [lowered, trimmed, String.toList_ofList, String.toList_ofList] at among
      exact among
    rw [ofStatement_eq_quit same words, ofStatement_of_quit words]
  keyword before word after parts leads named other same := by
    have words : lower word.toList = "source".toList ∨ lower word.toList = "list".toList := by
      have among := List.mem_map_of_mem (f := String.toList) named
      rw [lowered, String.toList_ofList] at among
      exact List.mem_pair.mp among
    rw [parts]
    exact ofStatement_keyword_congr leads same words
  reread := ofStatement_canonical statement

end Normalisation

end QueryShell.Command
