import QueryShell.Proofs.Connection.RoundTrip

/-!
Which server a connection string names. The user and the password go into it as they are, so that a
slash, a question mark or a number sign in them ends the authority before the host is reached. What
stands in front of that character is then read as the server.
-/

namespace QueryShell.Connection

open Url

variable {connection : Connection} {text host database : String} {front : List Char} {mark : Char}

/-- Whether a text is accepted as a connection string and names the server of a connection. -/
def NamesServer (text : String) (connection : Connection) : Prop :=
  ∃ read, ofText text = .ok read ∧ read.host = connection.host ∧ read.port = connection.port

/-- The part of the credentials that is read as an authority. -/
def exposed (connection : Connection) : List Char := authorityIn connection.credentials.toList

section Cleaning

theorem exists_cleaned (visible : 0x20 < mark.toNat) (front rest : List Char) :
    ∃ back, cleaned (databaseStart ++ (front ++ mark :: rest)) =
      databaseStart ++ (front.filter isKept ++ mark :: back) := by
  have parts (rest : List Char) : databaseStart ++ front ++ mark :: rest =
      'p' :: ("ostgres://".toList ++ front) ++ mark :: rest := rfl
  have start : databaseStart.filter isKept = databaseStart := by decide
  obtain ⟨back, clean⟩ := exists_cleaned_append (show 0x20 < 'p'.toNat by decide) visible
    ("ostgres://".toList ++ front) rest
  refine ⟨back, ?_⟩
  rw [← List.append_assoc, parts, clean, ← parts, List.filter_append, List.filter_append, start]
  simp [isKept_of_visible visible]

theorem filter_lead (credentials : Option (List Char)) :
    (lead credentials).filter isKept = lead (credentials.map (List.filter isKept)) := by
  cases credentials with
  | none => rfl
  | some info =>
      have kept : isKept '@' = true := by decide
      simp [lead, List.filter_append, kept]

theorem filter_written {host : List Char} (whole : IsHost host) (port : Nat) :
    (host ++ ':' :: Nat.toDigits 10 port).filter isKept = host ++ ':' :: Nat.toDigits 10 port := by
  rw [List.filter_eq_self]
  intro char member
  exact isKept_of_visible (visible_written whole port char member)

end Cleaning

section Naming

theorem namesServer_iff_of_authority {authority : List Char}
    (clean : cleaned text.toList = databaseStart ++ authority) :
    NamesServer text connection ↔
      ∃ server, (ofAuthority "postgres" .plain authority).map (fun url => (url.host, url.port)) =
        .ok server ∧ server.1 = connection.host ∧ server.2.getD defaultPort = connection.port := by
  rw [NamesServer, ofText_of_authority clean]
  cases ofAuthority "postgres" .plain authority with
  | error fault =>
      constructor
      · rintro ⟨read, accepted, -⟩
        cases accepted
      · rintro ⟨server, accepted, -⟩
        cases accepted
  | ok url =>
      constructor
      · rintro ⟨read, accepted, same_host, same_port⟩
        cases accepted
        exact ⟨_, rfl, same_host, same_port⟩
      · rintro ⟨server, accepted, same_host, same_port⟩
        cases accepted
        exact ⟨_, rfl, same_host, same_port⟩

theorem NamesServer.host_ne (names : NamesServer text connection) :
    connection.host ≠ some "" := by
  obtain ⟨read, accepted, same_host, -⟩ := names
  obtain ⟨url, parsed, plain, rfl⟩ := exists_url accepted
  intro empty
  have nameless : url.host = some "" := same_host.trans empty
  obtain ⟨scheme, authority, from_authority⟩ :=
    exists_authority_of_ofText parsed plain (by rw [nameless]; rfl)
  have whole := (isNormal_of_ofAuthority from_authority).host "" nameless
  exact whole.filled rfl

theorem namesServer_of_free (located : connection.host = some host) (whole : IsHost host.toList)
    (bound : connection.port < 65536) {written : String}
    (chars : written.toList = databaseStart ++ connection.authorityText database)
    (free : ∀ char ∈ connection.credentials.toList, endsAuthority .plain char = false) :
    NamesServer written connection := by
  have own_host : connection.hostName = host := by
    rw [hostName, located]
    rfl
  obtain ⟨back, clean⟩ := exists_cleaned (show 0x20 < '/'.toNat by decide)
    (lead connection.info? ++ (host.toList ++ ':' :: Nat.toDigits 10 connection.port))
    database.toList
  rw [List.filter_append, filter_lead, filter_written whole] at clean
  have still_free : ∀ char ∈ lead (connection.info?.map (List.filter isKept)),
      endsAuthority .plain char = false := by
    intro char member
    rw [← filter_lead, List.mem_filter, ← toList_credentials] at member
    exact free char member.1
  rw [authorityText, own_host] at chars
  rw [namesServer_iff_of_authority (chars ▸ clean),
    ofAuthority_written "postgres" whole bound still_free]
  exact ⟨_, rfl, by rw [String.ofList_toList, located], rfl⟩

/-- Behind credentials that end the authority no part of the connection counts. -/
theorem namesServer_iff_exposed {written : String}
    (chars : written.toList = databaseStart ++ connection.authorityText database)
    (ended : ¬∀ char ∈ connection.credentials.toList, endsAuthority .plain char = false) :
    NamesServer written connection ↔
      NamesServer ("postgres://" ++ String.ofList connection.exposed ++ "/") connection := by
  have parts : connection.exposed ++ behindAuthority connection.credentials.toList =
      connection.credentials.toList := List.takeWhile_append_dropWhile
  have free : ∀ char ∈ connection.exposed, endsAuthority .plain char = false := by
    intro char member
    simpa using List.mem_takeWhile_imp member
  obtain ⟨mark, tail, behind⟩ : ∃ mark tail,
      behindAuthority connection.credentials.toList = mark :: tail := by
    apply List.exists_cons_of_ne_nil
    intro nothing
    rw [nothing, List.append_nil] at parts
    exact ended (parts ▸ free)
  have stops : endsAuthority .plain mark = true := by
    have first := List.head?_dropWhile_not (fun char => !endsAuthority .plain char)
      connection.credentials.toList
    rw [← behindAuthority, behind] at first
    simpa using first
  have visible : 0x20 < mark.toNat := by
    have listed : mark = '/' ∨ mark = '?' ∨ mark = '#' := by
      simpa [endsAuthority, or_assoc] using stops
    rcases listed with rfl | rfl | rfl
    · decide
    · decide
    · decide
  have still_free : ∀ char ∈ connection.exposed.filter isKept,
      endsAuthority .plain char = false := by
    intro char member
    exact free char (List.mem_filter.mp member).1
  obtain ⟨back, clean⟩ : ∃ back, cleaned written.toList =
      databaseStart ++ (connection.exposed.filter isKept ++ mark :: back) := by
    rw [chars, authorityText, ← toList_credentials, ← parts, behind]
    simp only [List.append_assoc, List.cons_append]
    exact exists_cleaned visible connection.exposed _
  obtain ⟨also_back, also_clean⟩ : ∃ back,
      cleaned ("postgres://" ++ String.ofList connection.exposed ++ "/").toList =
        databaseStart ++ (connection.exposed.filter isKept ++ '/' :: back) := by
    have also_chars : ("postgres://" ++ String.ofList connection.exposed ++ "/").toList =
        databaseStart ++ (connection.exposed ++ ['/']) := by
      have start : "postgres://".toList = databaseStart := rfl
      have slash : "/".toList = ['/'] := rfl
      simp only [String.toList_append, String.toList_ofList, start, slash, List.append_assoc]
    rw [also_chars]
    exact exists_cleaned (by decide) connection.exposed []
  have also_stops : endsAuthority .plain '/' = true := by decide
  -- both texts are cut at their first mark, and the server is told by what stands in front of it
  have same := server_ofAuthority_congr "postgres" still_free stops also_stops back also_back
  rw [namesServer_iff_of_authority clean, namesServer_iff_of_authority also_clean, same]

end Naming

/-- The connection string of a connection to a plain host names its server exactly if nothing in the
credentials ends the authority, or if the credentials up to there happen to name the same server. -/
theorem text_names_server_iff (located : connection.host = some host)
    (plain : ∀ char ∈ host.toList, isNamePart char = true)
    (named : connection.database = some database) (bound : connection.port < 65536) :
    ∃ written, connection.text = .ok written ∧
      (NamesServer written connection ↔
        (host ≠ "" ∧ ∀ char ∈ connection.credentials.toList, endsAuthority .plain char = false) ∨
        NamesServer ("postgres://" ++ String.ofList connection.exposed ++ "/") connection) := by
  obtain ⟨written, made, chars⟩ := exists_text named
  refine ⟨written, made, ?_⟩
  by_cases empty : host = ""
  · have nothing_named (text : String) : ¬NamesServer text connection := by
      intro names
      exact names.host_ne (empty ▸ located)
    simp [empty, nothing_named]
  · have filled : host.toList ≠ [] := fun nothing => empty (String.toList_eq_nil_iff.mp nothing)
    have whole := isHost_of_name filled plain
    by_cases free : ∀ char ∈ connection.credentials.toList, endsAuthority .plain char = false
    · exact iff_of_true (namesServer_of_free located whole bound chars free) (.inl ⟨empty, free⟩)
    · rw [namesServer_iff_exposed chars free]
      constructor
      · exact Or.inr
      · rintro (⟨-, also_free⟩ | names)
        · exact (free also_free).elim
        · exact names

/-- Other delimiters stay within the credentials, and no character of the database counts. -/
theorem text_names_server_of_other_delimiters :
    let connection : Connection :=
      { host := some "db-1.Example.org", port := 6000, database := some "../?x#y\t",
        user := some "me@east:7000\\", password := some "p@[q]:\n" }
    ∃ written, connection.text = .ok written ∧ NamesServer written connection := by
  intro connection
  have located : connection.host = some "db-1.Example.org" := rfl
  have plain : "db-1.Example.org".toList.all isNamePart = true := by decide
  have free : connection.credentials.toList.any (endsAuthority .plain) = false := by decide
  obtain ⟨written, made, names⟩ :=
    text_names_server_iff located (List.all_eq_true.mp plain) rfl (by decide)
  refine ⟨written, made, names.mpr (.inl ⟨by decide, ?_⟩)⟩
  intro char member
  exact Bool.eq_false_iff.mpr (List.any_eq_false.mp free char member)

/-- A user with a slash takes the connection to another server, and a password with a slash makes the
connection string unusable. -/
theorem text_names_other_server :
    let elsewhere : Connection :=
      { host := some "127.0.0.1", port := 1, database := some "db", user := some "u@other/d#" }
    let unusable : Connection :=
      { host := some "127.0.0.1", port := 1, database := some "db", user := some "u",
        password := some "p/q" }
    (∀ char ∈ "127.0.0.1".toList, isNamePart char = true) ∧
    (elsewhere.text = .ok "postgres://u@other/d#@127.0.0.1:1/db" ∧
      ofText "postgres://u@other/d#@127.0.0.1:1/db" = .ok
        { host := some "other", port := 5432, database := some "d", user := some "u" } ∧
      ¬NamesServer "postgres://u@other/d#@127.0.0.1:1/db" elsewhere) ∧
    unusable.text = .ok "postgres://u:p/q@127.0.0.1:1/db" ∧
      ofText "postgres://u:p/q@127.0.0.1:1/db" =
        .error (.config "Invalid connection string: invalid port number") ∧
      ¬NamesServer "postgres://u:p/q@127.0.0.1:1/db" unusable := by
  intro elsewhere unusable
  have misled : ofText "postgres://u@other/d#@127.0.0.1:1/db" = .ok
      { host := some "other", port := 5432, database := some "d", user := some "u" } := by
    decide +kernel
  have refused : ofText "postgres://u:p/q@127.0.0.1:1/db" =
      .error (.config "Invalid connection string: invalid port number") := by
    decide +kernel
  refine ⟨List.all_eq_true.mp (by decide), ⟨by decide +kernel, misled, ?_⟩, by decide +kernel,
    refused, ?_⟩
  · rintro ⟨read, accepted, same_host, -⟩
    rw [misled] at accepted
    cases accepted
    exact absurd same_host (by decide)
  · rintro ⟨read, accepted, -⟩
    rw [refused] at accepted
    cases accepted

end QueryShell.Connection
