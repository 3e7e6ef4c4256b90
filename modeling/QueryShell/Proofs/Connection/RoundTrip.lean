import QueryShell.Connection
import QueryShell.Proofs.Url.Reading

/-!
Connection strings written and read. The parts of a connection that was read stay encoded, so that its
connection string is read as the same connection.
-/

namespace QueryShell.Connection

open Url

variable {connection : Connection} {url : Url} {text database : String} {char : Char}

section Writing

def info? (connection : Connection) : Option (List Char) :=
  connection.user.map fun user => user.toList ++
    match connection.password with
    | none => []
    | some password => ':' :: password.toList

theorem toList_credentials (connection : Connection) :
    connection.credentials.toList = lead connection.info? := by
  rw [credentials, info?]
  cases connection.user with
  | none => rfl
  | some user =>
      cases connection.password with
      | none => simp [lead]
      | some password => simp [lead]

def authorityText (connection : Connection) (database : String) : List Char :=
  lead connection.info? ++ (connection.hostName.toList ++ ':' :: Nat.toDigits 10 connection.port) ++
    '/' :: database.toList

theorem exists_text (named : connection.database = some database) :
    ∃ written, connection.text = .ok written ∧
      written.toList = databaseStart ++ connection.authorityText database := by
  refine ⟨_, by rw [text, named], ?_⟩
  have start : "postgres://".toList = databaseStart := rfl
  have colon : ":".toList = [':'] := rfl
  have slash : "/".toList = ['/'] := rfl
  simp only [String.toList_append, toList_credentials, Nat.toString_eq_ofList_toDigits,
    String.toList_ofList, authorityText, start, colon, slash, List.append_assoc, List.cons_append,
    List.nil_append]

end Writing

section Reading

theorem exists_url (accepted : ofText text = .ok connection) :
    ∃ url, Url.ofText text = .ok url ∧ SchemeKind.of url.scheme = .plain ∧
      connection = ofUrl url := by
  rw [ofText] at accepted
  split at accepted
  · cases accepted
  · rename_i url read
    split at accepted
    · rename_i known
      cases accepted
      refine ⟨url, read, ?_, rfl⟩
      rw [Bool.or_eq_true, decide_eq_true_eq, decide_eq_true_eq] at known
      rcases known with short | long
      · rw [short]
        rfl
      · rw [long]
        rfl
    · cases accepted

theorem ofText_of_authority {authority : List Char}
    (clean : cleaned text.toList = databaseStart ++ authority) :
    ofText text = match ofAuthority "postgres" .plain authority with
      | .error fault => .error (.config ("Invalid connection string: " ++ fault.message))
      | .ok url => .ok (ofUrl url) := by
  rw [ofText, ofText_of_cleaned clean]
  cases read : ofAuthority "postgres" .plain authority with
  | error fault => rfl
  | ok url =>
      have scheme := scheme_of_ofAuthority read
      simp [scheme]

theorem exists_path (named : (ofUrl url).database = some database) :
    url.path.toList = '/' :: database.toList := by
  simp only [ofUrl] at named
  split at named
  · rename_i name starts
    split at named
    · cases named
    · cases named
      rw [starts, String.toList_ofList]
  · cases named

end Reading

section Normal

theorem info?_of_anonymous (anonymous : url.user = "") : (ofUrl url).info? = none := by
  simp [info?, ofUrl, anonymous]

theorem info?_of_user (signed : url.user ≠ "") :
    (ofUrl url).info? = some (url.user.toList ++
      match url.password with
      | none => []
      | some password => ':' :: password.toList) := by
  simp [info?, ofUrl, signed]

theorem named_info (normal : IsNormal url) (attributed : url.user ≠ "" ∨ url.password = none) :
    Url.named (ofUrl url).info? = (url.user, url.password) := by
  by_cases anonymous : url.user = ""
  · have no_password := attributed.resolve_left (not_not_intro anonymous)
    rw [info?_of_anonymous anonymous, anonymous, no_password]
    rfl
  · rw [info?_of_user anonymous]
    cases given : url.password with
    | none => simpa [Url.named] using userInfo_user normal.user
    | some password =>
        obtain ⟨filled, plain⟩ := normal.password password given
        simpa [Url.named] using userInfo_password normal.user plain filled

theorem of_mem_lead (normal : IsNormal url) (member : char ∈ lead (ofUrl url).info?) :
    0x20 < char.toNat ∧ endsAuthority .plain char = false := by
  have spared {char : Char} (spared : Percent.inUserInfo char = false) :
      0x20 < char.toNat ∧ endsAuthority .plain char = false := by
    obtain ⟨path, no_slash, -, -⟩ := Percent.of_not_inUserInfo spared
    obtain ⟨visible, no_query, no_fragment⟩ := Percent.of_not_inPath path
    exact ⟨visible, endsAuthority_plain_eq_false_iff.mpr ⟨no_slash, no_query, no_fragment⟩⟩
  by_cases anonymous : url.user = ""
  · rw [info?_of_anonymous anonymous] at member
    cases member
  · rw [info?_of_user anonymous, lead] at member
    rcases List.mem_append.mp member with within | at_sign
    · rcases List.mem_append.mp within with in_user | behind
      · exact spared (normal.user char in_user)
      · cases given : url.password with
        | none =>
            rw [given] at behind
            cases behind
        | some password =>
            rw [given] at behind
            rcases List.mem_cons.mp behind with rfl | in_password
            · decide
            · exact spared ((normal.password password given).2 char in_password)
    · obtain rfl := List.mem_singleton.mp at_sign
      decide

theorem port_lt (normal : IsNormal url) : (ofUrl url).port < 65536 := by
  have port : (ofUrl url).port = url.port.getD defaultPort := rfl
  rw [port]
  cases given : url.port with
  | none => decide
  | some port => exact normal.port port given

theorem hostName_eq {host : String} (located : url.host = some host) :
    (ofUrl url).hostName = host := by
  have same : (ofUrl url).host = url.host := rfl
  rw [hostName, same, located]
  rfl

theorem visible_authorityText {host : String} (normal : IsNormal url)
    (located : url.host = some host) (resolved : IsResolved ('/' :: database.toList)) :
    ∀ char ∈ databaseStart ++ (ofUrl url).authorityText database, 0x20 < char.toNat := by
  intro char member
  rw [authorityText, hostName_eq located] at member
  rw [List.mem_append, List.mem_append, List.mem_append] at member
  rcases member with start | (before | written) | path
  · have all : databaseStart.all (fun char => 0x20 < char.toNat) = true := by decide
    exact of_decide_eq_true (List.all_eq_true.mp all char start)
  · exact (of_mem_lead normal before).1
  · exact visible_written (normal.host host located) _ char written
  · exact (Percent.of_not_inPath (of_mem_resolved resolved path)).1

end Normal

/-- A connection that was read from a text is read from its own connection string again. -/
theorem text_reread (accepted : ofText text = .ok connection)
    (located : connection.host.isSome = true) (named : connection.database.isSome = true)
    (attributed : connection.user.isSome = true ∨ connection.password = none) :
    ∃ written, connection.text = .ok written ∧ ofText written = .ok connection := by
  obtain ⟨url, read, plain, rfl⟩ := exists_url accepted
  have some_host : url.host.isSome = true := located
  obtain ⟨scheme, authority, from_authority⟩ := exists_authority_of_ofText read plain some_host
  have normal := isNormal_of_ofAuthority from_authority
  obtain ⟨host, host_given⟩ := Option.isSome_iff_exists.mp some_host
  obtain ⟨database, database_given⟩ := Option.isSome_iff_exists.mp named
  have path := exists_path database_given
  have resolved : IsResolved ('/' :: database.toList) := by
    rcases normal.path with empty | resolved
    · rw [empty] at path
      cases path
    · rwa [path] at resolved
  obtain ⟨written, made, chars⟩ := exists_text database_given
  refine ⟨written, made, ?_⟩
  have clean : cleaned written.toList =
      databaseStart ++ (ofUrl url).authorityText database := by
    rw [chars]
    exact cleaned_of_visible (visible_authorityText normal host_given resolved)
  have names : Url.named (ofUrl url).info? = (url.user, url.password) := by
    refine named_info normal (attributed.imp ?_ id)
    intro some_user anonymous
    simp [ofUrl, anonymous] at some_user
  -- each part is in normal form, so that reading it again encodes and resolves nothing
  have reread := ofAuthority_written "postgres" (normal.host host host_given)
    (port_lt normal) (fun char member => (of_mem_lead normal member).2) database.toList
  rw [pathOf_resolved resolved, names, String.ofList_toList, ← path, String.ofList_toList] at reread
  rw [ofText_of_authority clean, authorityText, hostName_eq host_given, ← path, reread]
  simp [ofUrl, host_given]

theorem text_reread_of_address :
    let text := "PostgreSQL://me%40x:p:q@[2001:DB8:0:0::1]/a/%2E./C:/../x y//./z?k=v"
    let connection : Connection :=
      { host := some "[2001:db8::1]", port := 5432, database := some "C:/x%20y//z",
        user := some "me%40x", password := some "p%3Aq" }
    ofText text = .ok connection ∧
      ∃ written, connection.text = .ok written ∧ ofText written = .ok connection := by
  intro text connection
  have accepted : ofText text = .ok connection := by decide +kernel
  exact ⟨accepted, text_reread accepted rfl rfl (.inl rfl)⟩

end QueryShell.Connection
