import QueryShell.Proofs.Url.Host
import QueryShell.Proofs.Url.Path

/-!
What is read behind the two slashes of a URL. The credentials end at the last at sign, the host and
the port follow it, and all of that ends at the first slash, question mark or number sign. A URL that
was read is in normal form, and a URL in normal form is read from its text.
-/

namespace QueryShell.Url

variable {scheme : String} {char : Char} {authority info place host rest text : List Char}
  {credentials : Option (List Char)} {port : Nat} {url : Url}

section Credentials

def lead : Option (List Char) → List Char
  | none => []
  | some info => info ++ ['@']

def named (credentials : Option (List Char)) : String × Option String :=
  (credentials.map userInfo).getD ("", none)

def cutInfo (authority : List Char) : Option (List Char) × List Char :=
  match cutLastAt? authority with
  | none => (none, authority)
  | some (info, place) => (some info, place)

theorem cutLastAt?_of_absent (absent : '@' ∉ text) : cutLastAt? text = none := by
  have whole : text.reverse.takeWhile (· ≠ '@') = text.reverse := by
    rw [List.takeWhile_eq_self_iff]
    intro char member
    have other : char ≠ '@' := fun same => absent (same ▸ List.mem_reverse.mp member)
    simpa using other
  rw [cutLastAt?, whole]
  simp

theorem cutLastAt?_append (absent : '@' ∉ place) (info : List Char) :
    cutLastAt? (info ++ '@' :: place) = some (info, place) := by
  have after : (info ++ '@' :: place).reverse.takeWhile (· ≠ '@') = place.reverse := by
    have kept : ∀ char ∈ place.reverse, decide (char ≠ '@') = true := by
      intro char member
      have other : char ≠ '@' := fun same => absent (same ▸ List.mem_reverse.mp member)
      simpa using other
    rw [List.reverse_append, List.reverse_cons, List.append_assoc,
      List.takeWhile_append_of_pos kept]
    simp
  have shorter : place.reverse.length ≠ (info ++ '@' :: place).length := by
    rw [List.length_reverse, List.length_append, List.length_cons]
    omega
  have front : (info ++ '@' :: place).length - place.reverse.length - 1 = info.length := by
    rw [List.length_reverse, List.length_append, List.length_cons]
    omega
  rw [cutLastAt?, after]
  simp only [if_neg shorter, front, List.take_left, List.reverse_reverse]

theorem cutInfo_lead (absent : '@' ∉ place) (credentials : Option (List Char)) :
    cutInfo (lead credentials ++ place) = (credentials, place) := by
  cases credentials with
  | none => simp [cutInfo, lead, cutLastAt?_of_absent absent]
  | some info =>
      have cut := cutLastAt?_append absent info
      rw [lead, List.append_assoc, List.singleton_append, cutInfo, cut]

theorem userInfo_eq (text : List Char) :
    (userInfo text).1 = encoded (text.takeWhile (· ≠ ':')) ∧
    ((userInfo text).2 = none ∨
      ∃ password ≠ [], (userInfo text).2 = some (encoded password)) := by
  rw [userInfo]
  split
  · exact ⟨rfl, .inl rfl⟩
  · rename_i password filled found
    refine ⟨rfl, .inr ⟨password, ?_, rfl⟩⟩
    exact filled
  · exact ⟨rfl, .inl rfl⟩

theorem encoded_of_plain {text : String}
    (plain : Percent.Plain Percent.inUserInfo text.toList) : encoded text.toList = text := by
  rw [encoded, Percent.encode_of_plain plain, String.ofList_toList]

theorem colon_free (plain : Percent.Plain Percent.inUserInfo text) :
    ∀ char ∈ text, decide (char ≠ ':') = true := by
  intro char member
  obtain ⟨-, -, no_colon, -⟩ := Percent.of_not_inUserInfo (plain char member)
  simpa using no_colon

theorem userInfo_user {user : String} (plain : Percent.Plain Percent.inUserInfo user.toList) :
    userInfo user.toList = (user, none) := by
  have whole : user.toList.takeWhile (· ≠ ':') = user.toList :=
    List.takeWhile_eq_self_iff.mpr (colon_free plain)
  have nothing : user.toList.dropWhile (· ≠ ':') = [] :=
    List.dropWhile_eq_nil_iff.mpr (colon_free plain)
  simp only [userInfo, whole, nothing, encoded_of_plain plain]

theorem userInfo_password {user password : String}
    (plain : Percent.Plain Percent.inUserInfo user.toList)
    (also_plain : Percent.Plain Percent.inUserInfo password.toList) (filled : password ≠ "") :
    userInfo (user.toList ++ ':' :: password.toList) = (user, some password) := by
  have front : (user.toList ++ ':' :: password.toList).takeWhile (· ≠ ':') = user.toList := by
    rw [List.takeWhile_append_of_pos (colon_free plain)]
    simp
  have back : (user.toList ++ ':' :: password.toList).dropWhile (· ≠ ':') =
      ':' :: password.toList := by
    rw [List.dropWhile_append_of_pos (colon_free plain)]
    simp
  obtain ⟨first, others, written⟩ := List.exists_cons_of_ne_nil
    (show password.toList ≠ [] from fun empty => filled (String.toList_eq_nil_iff.mp empty))
  rw [userInfo, front, back, written]
  simp only [← written, encoded_of_plain plain, encoded_of_plain also_plain]

end Credentials

section Servers

structure Server where
  host : String
  port : Option Nat
  behind : List Char

def readServer (credentials : Option (List Char)) (place : List Char) (isLast : Bool) :
    Except Fault Server :=
  if credentials = some [] && place.isEmpty && !isLast then .error .emptyHost
  else
    let rest := place.drop (hostLength false place)
    let digits := (rest.drop 1).takeWhile (· ≠ '\\')
    match hostOf .plain (place.take (hostLength false place)) with
    | .error fault => .error fault
    | .ok host =>
        if host.isEmpty && !rest.isEmpty then .error .emptyHost
        else match portOf digits with
          | .error fault => .error fault
          | .ok port =>
              if host.isEmpty && ((named credentials).1 ≠ "" || (named credentials).2.isSome) then
                .error .emptyHost
              else .ok ⟨host, port, (rest.drop 1).drop digits.length⟩

def Server.toUrl (server : Server) (scheme : String) (credentials : Option (List Char))
    (after : List Char) : Url :=
  { scheme
    user := (named credentials).1
    password := (named credentials).2
    host := if server.host.isEmpty then none else some server.host
    port := server.port
    path := pathOf .plain (server.behind ++ after) }

def authorityIn (text : List Char) : List Char :=
  text.takeWhile fun char => !endsAuthority .plain char

def behindAuthority (text : List Char) : List Char :=
  text.dropWhile fun char => !endsAuthority .plain char

theorem getD_map_cutInfo {Result : Type} {look : List Char × List Char → Result} {absent : Result}
    {authority : List Char} (known : Option (List Char) → Result) (none_known : known none = absent)
    (some_known : ∀ info place, look (info, place) = known (some info)) :
    ((cutLastAt? authority).map look).getD absent = known (cutInfo authority).1 := by
  rw [cutInfo]
  cases cutLastAt? authority with
  | none => exact none_known.symm
  | some cut => exact some_known cut.1 cut.2

theorem ofAuthority_eq (scheme : String) (text : List Char) :
    ofAuthority scheme .plain text =
      (readServer (cutInfo (authorityIn text)).1 (cutInfo (authorityIn text)).2
        (behindAuthority text).isEmpty).map fun server =>
          server.toUrl scheme (cutInfo (authorityIn text)).1 (behindAuthority text) := by
  rw [ofAuthority, ← authorityIn, ← behindAuthority]
  generalize authorityIn text = authority
  generalize behindAuthority text = after
  have places : ((cutLastAt? authority).map Prod.snd).getD authority = (cutInfo authority).2 := by
    rw [cutInfo]
    cases cutLastAt? authority with
    | none | some => rfl
  -- user and password, and whether the credentials are empty, depend on the cut only through them
  rw [places, getD_map_cutInfo named,
    getD_map_cutInfo fun credentials : Option (List Char) => decide (credentials = some [])]
  rotate_left
  · rfl
  · intro info place
    cases info with
    | nil | cons => rfl
  · rfl
  · intro info place
    rfl
  generalize (cutInfo authority).1 = credentials
  generalize (cutInfo authority).2 = place
  simp only [bind, Except.bind, pure, Except.pure, throw, throwThe, MonadExceptOf.throw, readServer]
  by_cases bare : (decide (credentials = some []) && place.isEmpty && !after.isEmpty) = true
  · rw [if_pos bare, if_pos bare]
    rfl
  · rw [if_neg bare, if_neg bare, if_neg (by simp)]
    cases hostOf .plain (place.take (hostLength false place)) with
    | error fault => rfl
    | ok host =>
        dsimp only
        split
        · rfl
        · cases portOf (((place.drop (hostLength false place)).drop 1).takeWhile (· ≠ '\\')) with
          | error fault => rfl
          | ok port =>
              dsimp only
              split
              · rfl
              · rfl

/-- Which server is read does not depend on what follows the authority. -/
theorem server_ofAuthority_congr (scheme : String) {mark other : Char}
    (free : ∀ char ∈ text, endsAuthority .plain char = false)
    (ends : endsAuthority .plain mark = true) (also_ends : endsAuthority .plain other = true)
    (rest others : List Char) :
    (ofAuthority scheme .plain (text ++ mark :: rest)).map (fun url => (url.host, url.port)) =
      (ofAuthority scheme .plain (text ++ other :: others)).map fun url => (url.host, url.port) := by
  have kept : ∀ char ∈ text, (!endsAuthority .plain char) = true := by
    intro char member
    simp [free char member]
  have front {first : Char} (stops : endsAuthority .plain first = true) (behind : List Char) :
      authorityIn (text ++ first :: behind) = text ∧
        behindAuthority (text ++ first :: behind) = first :: behind := by
    constructor
    · rw [authorityIn, List.takeWhile_append_of_pos kept]
      simp [stops]
    · rw [behindAuthority, List.dropWhile_append_of_pos kept]
      simp [stops]
  obtain ⟨authority, behind⟩ := front ends rest
  obtain ⟨also_authority, also_behind⟩ := front also_ends others
  rw [ofAuthority_eq, ofAuthority_eq, authority, behind, also_authority, also_behind,
    List.isEmpty_cons, List.isEmpty_cons]
  cases readServer (cutInfo text).1 (cutInfo text).2 false with
  | error => rfl
  | ok => rfl

end Servers

section NormalForm

structure IsNormal (url : Url) : Prop where
  user : Percent.Plain Percent.inUserInfo url.user.toList
  password : ∀ password ∈ url.password,
    password ≠ "" ∧ Percent.Plain Percent.inUserInfo password.toList
  host : ∀ host ∈ url.host, IsHost host.toList
  port : ∀ port ∈ url.port, port < 65536
  path : url.path = "" ∨ IsResolved url.path.toList

theorem plain_encoded (text : List Char) :
    Percent.Plain Percent.inUserInfo (encoded text).toList := by
  rw [encoded, String.toList_ofList]
  exact Percent.plain_encode Percent.sparesEscapes_inUserInfo text

theorem plain_named (credentials : Option (List Char)) :
    Percent.Plain Percent.inUserInfo (named credentials).1.toList ∧
    ∀ password ∈ (named credentials).2,
      password ≠ "" ∧ Percent.Plain Percent.inUserInfo password.toList := by
  cases credentials with
  | none =>
      refine ⟨List.forall_mem_nil _, ?_⟩
      intro password given
      cases given
  | some info =>
      obtain ⟨user, secret⟩ := userInfo_eq info
      have names : named (some info) = userInfo info := rfl
      rw [names]
      constructor
      · rw [user]
        exact plain_encoded _
      · intro password given
        rcases secret with nothing | ⟨written, filled, same⟩
        · rw [nothing] at given
          cases given
        · rw [same] at given
          cases given
          refine ⟨?_, plain_encoded written⟩
          rw [encoded, ne_eq, String.ofList_eq_empty_iff]
          exact Percent.encode_ne_nil filled

theorem portOf_lt {digits : List Char} (read : portOf digits = .ok (some port)) : port < 65536 := by
  rw [portOf] at read
  split at read
  · cases read
  · split at read
    · rename_i found
      cases read
      exact of_decide_eq_true (Option.filter_eq_some_iff.mp found).2
    · cases read

theorem of_readServer {isLast : Bool} {server : Server}
    (read : readServer credentials place isLast = .ok server) :
    (∃ written, hostOf .plain written = .ok server.host) ∧
      ∃ digits, portOf digits = .ok server.port := by
  rw [readServer] at read
  split at read
  · cases read
  · dsimp only at read
    split at read
    · cases read
    · rename_i host found
      split at read
      · cases read
      · split at read
        · cases read
        · rename_i port also_found
          split at read
          · cases read
          · cases read
            exact ⟨⟨_, found⟩, ⟨_, also_found⟩⟩

/-- A URL that was read is in normal form. -/
theorem isNormal_of_ofAuthority (read : ofAuthority scheme .plain text = .ok url) :
    IsNormal url := by
  rw [ofAuthority_eq] at read
  cases found : readServer (cutInfo (authorityIn text)).1 (cutInfo (authorityIn text)).2
      (behindAuthority text).isEmpty with
  | error fault =>
      rw [found] at read
      cases read
  | ok server =>
      rw [found] at read
      cases read
      obtain ⟨⟨written, read_host⟩, digits, read_port⟩ := of_readServer found
      obtain ⟨user, password⟩ := plain_named (cutInfo (authorityIn text)).1
      refine ⟨user, password, ?_, ?_, pathOf_cases _⟩
      · intro host given
        simp only [Server.toUrl] at given
        split at given
        · cases given
        · rename_i named
          cases given
          exact isHost_of_hostOf read_host (Bool.eq_false_iff.mpr named)
      · intro port given
        have some_port : server.port = some port := given
        rw [some_port] at read_port
        exact portOf_lt read_port

end NormalForm

section Writing

theorem readServer_written (whole : IsHost host) (bound : port < 65536)
    (credentials : Option (List Char)) (isLast : Bool) :
    readServer credentials (host ++ ':' :: Nat.toDigits 10 port) isLast =
      .ok ⟨String.ofList host, some port, []⟩ := by
  have length := whole.span (Nat.toDigits 10 port)
  have some_place : (host ++ ':' :: Nat.toDigits 10 port).isEmpty = false := by simp
  have some_host : (String.ofList host).isEmpty = false := by
    rw [Bool.eq_false_iff, ne_eq, String.isEmpty_iff, String.ofList_eq_empty_iff]
    exact whole.filled
  have digits : (Nat.toDigits 10 port).takeWhile (· ≠ '\\') = Nat.toDigits 10 port := by
    rw [List.takeWhile_eq_self_iff]
    intro char member
    obtain ⟨digit, -, rfl⟩ := Digit.exists_of_mem_toDigits (by decide) member
    simp
  have number : portOf (Nat.toDigits 10 port) = .ok (some port) := by
    have below : (some port).filter (· < 65536) = some port := by simp [bound]
    rw [portOf, if_neg (by simp), Decimal.natOfText?_toDigits, below]
  rw [readServer, some_place, Bool.and_false, Bool.false_and, if_neg Bool.false_ne_true, length]
  dsimp only
  rw [List.take_left, List.drop_left, List.drop_one, List.tail_cons, whole.kept, digits, number]
  simp [some_host]

theorem forall_mem_written {holds : Char → Prop} (inside : ∀ char ∈ host, holds char)
    (colon : holds ':') (digit : ∀ digit < 10, holds digit.digitChar) (port : Nat) :
    ∀ char ∈ host ++ ':' :: Nat.toDigits 10 port, holds char := by
  intro char member
  rcases List.mem_append.mp member with within | behind
  · exact inside char within
  · rcases List.mem_cons.mp behind with rfl | digits
    · exact colon
    · obtain ⟨value, small, rfl⟩ := Digit.exists_of_mem_toDigits (by decide) digits
      exact digit value small

theorem visible_written (whole : IsHost host) (port : Nat) :
    ∀ char ∈ host ++ ':' :: Nat.toDigits 10 port, 0x20 < char.toNat :=
  forall_mem_written (fun char member => (whole.inside char member).1) (by decide) (by decide) port

/-- Credentials, a host, a port and a path are read from an authority that is written with them. -/
theorem ofAuthority_written (scheme : String) (whole : IsHost host) (bound : port < 65536)
    (free : ∀ char ∈ lead credentials, endsAuthority .plain char = false) (rest : List Char) :
    ofAuthority scheme .plain
        (lead credentials ++ (host ++ ':' :: Nat.toDigits 10 port) ++ '/' :: rest) =
      .ok {
        scheme
        user := (named credentials).1
        password := (named credentials).2
        host := some (String.ofList host)
        port := some port
        path := pathOf .plain ('/' :: rest) } := by
  have still_free : ∀ char ∈ host ++ ':' :: Nat.toDigits 10 port,
      endsAuthority .plain char = false :=
    forall_mem_written (fun char member => (whole.inside char member).2.1) (by decide) (by decide)
      port
  have kept : ∀ char ∈ lead credentials ++ (host ++ ':' :: Nat.toDigits 10 port),
      (!endsAuthority .plain char) = true := by
    intro char member
    rw [Bool.not_eq_true']
    rcases List.mem_append.mp member with before | behind
    · exact free char before
    · exact still_free char behind
  have unsigned : ∀ char ∈ host ++ ':' :: Nat.toDigits 10 port, char ≠ '@' :=
    forall_mem_written (fun char member => (whole.inside char member).2.2) (by decide)
      (fun digit _ => Nat.digitChar_ne '@' (by decide)) port
  have at_free : '@' ∉ host ++ ':' :: Nat.toDigits 10 port := fun member => unsigned '@' member rfl
  have authority : authorityIn
      (lead credentials ++ (host ++ ':' :: Nat.toDigits 10 port) ++ '/' :: rest) =
        lead credentials ++ (host ++ ':' :: Nat.toDigits 10 port) := by
    rw [authorityIn, List.takeWhile_append_of_pos kept]
    simp [endsAuthority]
  have behind : behindAuthority
      (lead credentials ++ (host ++ ':' :: Nat.toDigits 10 port) ++ '/' :: rest) = '/' :: rest := by
    rw [behindAuthority, List.dropWhile_append_of_pos kept]
    simp [endsAuthority]
  have some_host : (String.ofList host).isEmpty = false := by
    rw [Bool.eq_false_iff, ne_eq, String.isEmpty_iff, String.ofList_eq_empty_iff]
    exact whole.filled
  rw [ofAuthority_eq, authority, behind, cutInfo_lead at_free, readServer_written whole bound]
  simp [Except.map, Server.toUrl, some_host]

end Writing

end QueryShell.Url
