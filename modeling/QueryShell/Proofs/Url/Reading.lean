import QueryShell.Proofs.Url.Authority

/-!
URLs in their texts. What does not show in a text is taken away before it is read, and behind the
scheme of a database and two slashes its authority is read.
-/

namespace QueryShell.Url

variable {scheme text : String} {kind : SchemeKind} {authority chars : List Char} {url : Url}

section Cleaning

def isKept (char : Char) : Bool := !(char = '\t' || char = '\n' || char = '\x0d')

theorem isKept_of_visible {char : Char} (visible : 0x20 < char.toNat) : isKept char = true := by
  have other {hidden : Char} (low : hidden.toNat ≤ 0x20) : char ≠ hidden := by
    rintro rfl
    omega
  simp [isKept, other (show '\t'.toNat ≤ 0x20 by decide),
    other (show '\n'.toNat ≤ 0x20 by decide), other (show '\x0d'.toNat ≤ 0x20 by decide)]

/-- Between two visible characters only line ends and tabs are taken away. -/
theorem exists_cleaned_append {first last : Char} (starts : 0x20 < first.toNat)
    (ends : 0x20 < last.toNat) (middle rest : List Char) :
    ∃ back, cleaned (first :: middle ++ last :: rest) =
      (first :: middle ++ [last]).filter isKept ++ back := by
  have low {char : Char} (visible : 0x20 < char.toNat) : ¬decide (char.toNat ≤ 0x20) = true := by
    simpa using visible
  have start : (first :: middle ++ last :: rest).dropWhile (fun char => char.toNat ≤ 0x20) =
      first :: middle ++ last :: rest := List.dropWhile_cons_of_neg (low starts)
  have front : (first :: middle ++ [last]).reverse.dropWhile (fun char => char.toNat ≤ 0x20) =
      (first :: middle ++ [last]).reverse := by
    rw [List.reverse_append, List.reverse_singleton, List.singleton_append]
    exact List.dropWhile_cons_of_neg (low ends)
  have parts : first :: middle ++ last :: rest = first :: middle ++ [last] ++ rest := by simp
  simp only [cleaned, start]
  rw [parts, List.reverse_append, List.dropWhile_append, front]
  split
  · refine ⟨[], ?_⟩
    rw [List.reverse_reverse, List.append_nil]
    rfl
  · refine ⟨(rest.reverse.dropWhile fun char => char.toNat ≤ 0x20).reverse.filter isKept, ?_⟩
    rw [List.reverse_append, List.reverse_reverse, List.filter_append]
    rfl

theorem cleaned_of_visible (visible : ∀ char ∈ chars, 0x20 < char.toNat) :
    cleaned chars = chars := by
  have kept {text : List Char} (within : ∀ char ∈ text, char ∈ chars) :
      text.dropWhile (fun char => char.toNat ≤ 0x20) = text := by
    rw [List.dropWhile_eq_self_iff]
    intro some_char
    simpa using visible _ (within _ (List.getElem_mem some_char))
  have ends : chars.reverse.dropWhile (fun char => char.toNat ≤ 0x20) = chars.reverse :=
    kept fun char member => List.mem_reverse.mp member
  simp only [cleaned]
  rw [kept fun char member => member, ends, List.reverse_reverse, List.filter_eq_self]
  intro char member
  exact isKept_of_visible (visible char member)

end Cleaning

def databaseStart : List Char := "postgres://".toList

theorem ofText_of_cleaned (clean : cleaned text.toList = databaseStart ++ authority) :
    ofText text = ofAuthority "postgres" .plain authority := by
  have scheme : cutScheme? (databaseStart ++ authority) =
      some ("postgres", '/' :: '/' :: authority) := rfl
  rw [ofText, clean, scheme]
  rfl

theorem scheme_of_ofAuthority (read : ofAuthority scheme kind chars = .ok url) :
    url.scheme = scheme := by
  rw [ofAuthority] at read
  simp only [bind, Except.bind, pure, Except.pure, throw, throwThe, MonadExceptOf.throw] at read
  split at read
  · cases read
  · split at read
    · cases read
    · split at read
      · cases read
      · split at read
        · cases read
        · split at read
          · cases read
          · split at read
            · cases read
            · cases read
              rfl

theorem scheme_of_ofFile (read : ofFile chars = .ok url) : url.scheme = "file" := by
  rw [ofFile.eq_def] at read
  split at read
  · dsimp only at read
    split at read
    · split at read
      · cases read
        rfl
      · rename_i first second rest _ _
        cases found : hostOf .file (rest.takeWhile fun char => !endsAuthority .file char) with
        | error fault =>
            rw [found] at read
            cases read
        | ok host =>
            rw [found] at read
            cases read
            rfl
    · cases read
      rfl
  · cases read
    rfl

/-- A URL with a host whose scheme is none of the web was read from an authority. -/
theorem exists_authority_of_ofText (read : ofText text = .ok url)
    (plain : SchemeKind.of url.scheme = .plain) (located : url.host.isSome = true) :
    ∃ scheme authority, ofAuthority scheme .plain authority = .ok url := by
  rw [ofText] at read
  split at read
  · cases read
  · rename_i scheme rest _
    dsimp only at read
    split at read
    · rw [scheme_of_ofFile read] at plain
      cases plain
    · rename_i web
      rw [scheme_of_ofAuthority read, web] at plain
      cases plain
    · rename_i kind
      split at read
      · rw [kind] at read
        exact ⟨scheme, _, read⟩
      · cases read
        cases located
      · cases read
        cases located

end QueryShell.Url
