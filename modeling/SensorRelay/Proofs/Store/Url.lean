import SensorRelay.Config.Settings
import SensorRelay.Proofs.Program.Run
import SensorRelay.Proofs.Text.Digit
import SensorRelay.Proofs.Text.Percent
import SensorRelay.Store.Url

/-!
# The URL of a database that is given by its parts

When no URL is given, one is made of a user, a password, a host, a port and a database, each
written as it is (`Config.assembleDatabaseUrl`). It is read by the grammar of URLs, in which marks
end the parts and escapes stand for bytes, so that it need not name the parts that it was made
of : it does exactly when the user holds neither `:` nor `/`, the password no `@`, neither of them
an escape, and the port has no more digits than an integer may have (`Config.names_parts_iff`).

Which user and which password are read is told by the marks alone (`takeUser_eq_some_iff`). One
that holds the mark that ends it is read too short, and resolving escapes makes nothing longer
(`length_percentDecode`), so that it does not come back by another way either
(`stands_of_takeUser`).
-/

namespace SensorRelay

open Text

/-! ## Marks and blanks -/

namespace Text

variable {sep : Char} {xs ys : List Char}

theorem cutFirst?_append (h : sep ∉ xs) : cutFirst? sep (xs ++ sep :: ys) = some (xs, ys) := by
  induction xs with
  | nil => rw [List.nil_append, cutFirst?, if_pos rfl]
  | cons x xs ih =>
    rw [List.mem_cons, not_or] at h
    rw [List.cons_append, cutFirst?, if_neg (Ne.symm h.1), ih h.2]
    rfl

theorem eq_append_of_cutFirst? {cs : List Char} (h : cutFirst? sep cs = some (xs, ys)) :
    cs = xs ++ sep :: ys ∧ sep ∉ xs := by
  induction cs generalizing xs with
  | nil => cases h
  | cons c cs ih =>
    unfold cutFirst? at h
    split_ifs at h with hc
    · cases h
      exact ⟨by rw [hc, List.nil_append], List.not_mem_nil⟩
    · obtain ⟨⟨before, after⟩, hcut, heq⟩ := Option.map_eq_some_iff.1 h
      cases heq
      obtain ⟨rfl, hmem⟩ := ih hcut
      exact ⟨rfl, fun h => (List.mem_cons.1 h).elim (fun heq => hc heq.symm) hmem⟩

/-- Where a text is cut at the first of its marks, no other cut at a mark leaves less in front. -/
theorem eq_of_append_cons {us vs : List Char} (h : xs ++ sep :: ys = us ++ sep :: vs)
    (hus : sep ∉ us) (hle : xs.length ≤ us.length) : xs = us ∧ ys = vs := by
  obtain ⟨ws, rfl⟩ : xs <+: us :=
    List.prefix_of_prefix_length_le (List.prefix_append xs (sep :: ys))
      (h ▸ List.prefix_append us (sep :: vs)) hle
  rw [List.append_assoc, List.append_cancel_left_eq] at h
  match ws with
  | [] =>
    rw [List.append_nil]
    exact ⟨rfl, (List.cons.inj h).2⟩
  | w :: ws =>
    rw [(List.cons.inj h).1] at hus
    exact absurd (List.mem_append_right _ List.mem_cons_self) hus

theorem trimBy_of_forall {p : Char → Bool} {cs : List Char} (h : ∀ c ∈ cs, p c = false) :
    trimBy p cs = cs := by
  have hkeeps : ∀ ds : List Char, (∀ c ∈ ds, p c = false) → ds.dropWhile p = ds := by
    rintro (_ | ⟨d, ds⟩) hds
    · rfl
    · exact List.dropWhile_cons_of_neg (by rw [hds d List.mem_cons_self]; exact Bool.false_ne_true)
  rw [trimBy, hkeeps cs h, hkeeps cs.reverse fun c hc => h c (List.mem_reverse.1 hc),
    List.reverse_reverse]

end Text

/-! ## Ports -/

namespace Number

/-- A digit is neither white space nor a sign, and a digit among those of all scripts. -/
theorem digitChar_spec {d : Nat} (h : d < 10) :
    isWhiteSpace (digitChar d) = false ∧ digitValue? (digitChar d) = some d ∧
      digitChar d ≠ '-' ∧ digitChar d ≠ '+' ∧ isAsciiDigit (digitChar d) = true := by
  have hall : ∀ d : Fin 10, isWhiteSpace (digitChar d) = false ∧
      digitValue? (digitChar d) = some d.val ∧ digitChar d ≠ '-' ∧ digitChar d ≠ '+' ∧
      isAsciiDigit (digitChar d) = true := by decide
  exact hall ⟨d, h⟩

/-- A numeral is read as its number, unless it has too many digits. -/
theorem readInteger_of_readNat? {s : String} {n : Nat} (h : readNat? s.toList = some n) :
    readInteger s =
      if maxDigits < s.length then .error (tooManyDigits s.length) else .ok n := by
  obtain ⟨ds, hne, hds, hs, rfl⟩ := exists_digits_of_readNat? h
  have hplain : plainNumeral s = ds.map digitChar := by
    rw [plainNumeral, hs, trimBy_of_forall]
    · rw [List.map_map]
      refine List.map_congr_left fun d hd => ?_
      simp only [Function.comp_apply, (digitChar_spec (hds d hd)).2.1]
    · exact List.forall_mem_map.2 fun d hd => (digitChar_spec (hds d hd)).1
  have hsign : takeSign (ds.map digitChar) = (false, ds.map digitChar) := by
    match ds with
    | [] => exact absurd rfl hne
    | d :: ds =>
      obtain ⟨-, -, hminus, hplus, -⟩ := digitChar_spec (hds d List.mem_cons_self)
      rw [List.map_cons, takeSign]
      · exact fun rest heq => hminus (List.cons.inj heq).1
      · exact fun rest heq => hplus (List.cons.inj heq).1
  have hall : ∀ c ∈ ds.map digitChar, (isAsciiDigit c || c == '_') = true :=
    List.forall_mem_map.2 fun d hd => by rw [(digitChar_spec (hds d hd)).2.2.2.2, Bool.true_or]
  have hlength : s.length = ds.length := by rw [← String.length_toList, hs, List.length_map]
  simp only [readInteger, hplain, hsign, List.takeWhile_eq_self_iff.2 hall,
    List.dropWhile_eq_nil_iff.2 hall, groupedDigits?_map_digitChar hne hds, hlength,
    List.isEmpty_nil, Bool.not_true, Bool.false_eq_true, if_false]

end Number

namespace DatabaseUrl

/-! ## Users and passwords -/

/-- A user and a password are read of a text that starts with them, if neither holds a mark that
would end it earlier. -/
theorem takeUser_eq_some_iff {cs u p rest : List Char} :
    takeUser cs = (some u, some p, rest) ↔
      cs = u ++ ':' :: (p ++ '@' :: rest) ∧ (∀ c ∈ u, endsUser c = false) ∧ '@' ∉ p := by
  constructor
  · intro h
    have hcut : cs.takeWhile (fun c => !endsUser c)
        ++ cs.drop (cs.takeWhile fun c => !endsUser c).length = cs :=
      List.prefix_iff_eq_append.1 (List.takeWhile_prefix _)
    have hfree : ∀ c ∈ cs.takeWhile (fun c => !endsUser c), endsUser c = false := fun c hc => by
      simpa using List.mem_takeWhile_imp hc
    simp only [takeUser] at h
    generalize cs.takeWhile (fun c => !endsUser c) = user at h hcut hfree
    split at h
    · next password more hpass =>
      split at hpass
      · next text hrest =>
        obtain ⟨rfl, hp⟩ := eq_append_of_cutFirst? hpass
        cases h
        exact ⟨by rw [← hrest, hcut], hfree, hp⟩
      · cases hpass
    · split at h <;> cases h
  · rintro ⟨rfl, hu, hp⟩
    have hwhile : (u ++ ':' :: (p ++ '@' :: rest)).takeWhile (fun c => !endsUser c) = u := by
      rw [List.takeWhile_append_of_pos fun c hc => by rw [hu c hc]; rfl,
        List.takeWhile_cons_of_neg (by decide), List.append_nil]
    simp only [takeUser, hwhile, List.drop_left, cutFirst?_append hp]

/-! ## Hosts and databases -/

/-- Is the text the name of a host, without a mark that would end or open it? -/
def isPlainHost (host : String) : Bool :=
  host != "" && host.toList.all fun c => !endsHost c && c != ':' && c != '['

theorem takeHost_append {host : String} (h : isPlainHost host) (rest : List Char) :
    takeHost (host.toList ++ ':' :: rest) = (some host.toList, ':' :: rest) := by
  rw [isPlainHost, Bool.and_eq_true, List.all_eq_true, bne_iff_ne] at h
  obtain ⟨hne, hmarks⟩ := h
  have hplain : ∀ c ∈ host.toList, (!endsHost c && c != ':') = true := fun c hc =>
    (Bool.and_eq_true_iff.1 (hmarks c hc)).1
  have hempty : host.toList ≠ [] := fun h => hne (String.toList_eq_nil_iff.1 h)
  have hopen : takeBracketed? (host.toList ++ ':' :: rest) = none := by
    match hcs : host.toList with
    | [] => exact absurd hcs hempty
    | c :: cs =>
      have hmem : c ∈ host.toList := by rw [hcs]; exact List.mem_cons_self
      have hc : c ≠ '[' := bne_iff_ne.1 (Bool.and_eq_true_iff.1 (hmarks c hmem)).2
      rw [List.cons_append, takeBracketed?]
      exact fun _ heq => hc (List.cons.inj heq).1
  have hwhile : (host.toList ++ ':' :: rest).takeWhile (fun c => !endsHost c && c != ':')
      = host.toList := by
    rw [List.takeWhile_append_of_pos hplain, List.takeWhile_cons_of_neg (by decide),
      List.append_nil]
  have hsome : host.toList.isEmpty = false := List.isEmpty_eq_false_iff.2 hempty
  simp only [takeHost, hopen, hwhile, hsome, Bool.false_eq_true, if_false, List.drop_left]

theorem endsHost_digitChar {d : Nat} (h : d < 10) : endsHost (digitChar d) = false := by
  have hall : ∀ d : Fin 10, endsHost (digitChar d) = false := by decide
  exact hall ⟨d, h⟩

theorem takePart_append {mark : Char} {ends : Char → Bool} {xs rest : List Char}
    (hxs : ∀ c ∈ xs, ends c = false) (hrest : ∀ c ∈ rest.head?, ends c = true) :
    takePart mark ends (mark :: (xs ++ rest)) = (some xs, rest) := by
  have hall : ∀ c ∈ xs, (!ends c) = true := fun c hc => by rw [hxs c hc]; rfl
  have hstop : rest.takeWhile (fun c => !ends c) = [] ∧
      rest.dropWhile (fun c => !ends c) = rest := by
    match rest with
    | [] => exact ⟨rfl, rfl⟩
    | c :: rest =>
      have hc : ¬(!ends c) = true := by rw [hrest c rfl]; exact Bool.false_ne_true
      exact ⟨List.takeWhile_cons_of_neg hc, List.dropWhile_cons_of_neg hc⟩
  rw [takePart, if_pos rfl, List.takeWhile_append_of_pos hall, List.dropWhile_append_of_pos hall,
    hstop.1, hstop.2, List.append_nil]

/-- The beginning of a URL that is made of parts. -/
def serverLead : String := "postgresql+psycopg2://"

theorem takeDriver?_server (cs : List Char) :
    takeDriver? (serverLead.toList ++ cs) = some ("postgresql+psycopg2".toList, cs) :=
  rfl

/-! ## Reading a URL -/

/-- The user and the password that a URL names are read between its marks, with their escapes
resolved. -/
theorem exists_takeUser_of_parse {cs : List Char} {url : DatabaseUrl} {user password : String}
    (h : parse (String.ofList (serverLead.toList ++ cs)) = .ok url)
    (huser : url.user = some user) (hpassword : url.password = some password) :
    ∃ u p rest, takeUser cs = (some u, some p, rest) ∧
      percentDecode (String.ofList u) = user ∧ percentDecode (String.ofList p) = password := by
  rw [parse, String.toList_ofList, takeDriver?_server] at h
  obtain ⟨port, -, h⟩ := bind_eq_ok_iff.1 h
  obtain rfl := Except.ok.inj h
  obtain ⟨u, hu, rfl⟩ := Option.map_eq_some_iff.1 huser
  obtain ⟨p, hp, rfl⟩ := Option.map_eq_some_iff.1 hpassword
  exact ⟨u, p, (takeUser cs).2.2, Prod.ext hu (Prod.ext hp rfl), rfl, rfl⟩

/-- Behind a user and a password that are found where they were put, the other parts are read as
they are written. -/
theorem parse_of_takeUser {cs u p : List Char} {host port database : String}
    (huser : takeUser cs
      = (some u, some p, host.toList ++ ':' :: (port.toList ++ '/' :: database.toList)))
    (hhost : isPlainHost host) {n : Nat} (hport : readNat? port.toList = some n)
    (hdatabase : '?' ∉ database.toList) :
    parse (String.ofList (serverLead.toList ++ cs)) =
      (Number.readInteger port).map fun n =>
        { driver := "postgresql+psycopg2"
          user := some (percentDecode (String.ofList u))
          password := some (percentDecode (String.ofList p))
          host := some host
          port := some n
          database := some database
          options := [] } := by
  obtain ⟨ds, hne, hds, htext, -⟩ := exists_digits_of_readNat? hport
  have hdigits : ∀ c ∈ port.toList, endsHost c = false := by
    rw [htext]
    exact List.forall_mem_map.2 fun d hd => endsHost_digitChar (hds d hd)
  have hportPart : takePart ':' endsHost (':' :: (port.toList ++ '/' :: database.toList))
      = (some port.toList, '/' :: database.toList) :=
    takePart_append hdigits fun c hc => by cases hc; rfl
  have hdatabasePart : takePart '/' (· == '?') ('/' :: database.toList)
      = (some database.toList, []) := by
    have hplain : ∀ c ∈ database.toList, (c == '?') = false := fun c hc =>
      beq_eq_false_iff_ne.2 fun heq => hdatabase (heq ▸ hc)
    have h : takePart '/' (· == '?') ('/' :: (database.toList ++ []))
        = (some database.toList, []) :=
      takePart_append hplain fun c hc => by cases hc
    rwa [List.append_nil] at h
  have hqueryPart : takePart '?' (· == '\n') [] = (none, []) := rfl
  have hread : (some port.toList).mapM readPort = some <$> Number.readInteger port := by
    show some <$> readPort port.toList = _
    rw [readPort, if_neg, String.ofList_toList]
    rw [List.isEmpty_iff, htext, List.map_eq_nil_iff]
    exact hne
  rw [parse, String.toList_ofList, takeDriver?_server]
  simp only [huser, takeHost_append hhost, hportPart, hdatabasePart, hqueryPart, hread,
    Option.map_some, Option.map_none, Option.getD_none, String.ofList_toList]
  cases Number.readInteger port <;> rfl

/-! ## Parts that stand for themselves -/

/-- Is the text read as a user when it is written as it is? -/
def standsAsUser (user : String) : Bool :=
  user.toList.all (fun c => !endsUser c) && !holdsEscape user.toList

/-- Is the text read as a password when it is written as it is? -/
def standsAsPassword (password : String) : Bool :=
  !password.toList.contains '@' && !holdsEscape password.toList

section

variable {user password : String} {more : List Char}

theorem standsAsUser_iff : standsAsUser user ↔
    (∀ c ∈ user.toList, endsUser c = false) ∧ percentDecode user = user := by
  simp only [standsAsUser, Bool.and_eq_true, List.all_eq_true, Bool.not_eq_true',
    percentDecode_eq_self_iff]

theorem standsAsPassword_iff : standsAsPassword password ↔
    '@' ∉ password.toList ∧ percentDecode password = password := by
  simp only [standsAsPassword, Bool.and_eq_true, Bool.not_eq_true', List.contains_eq_mem,
    decide_eq_false_iff_not, percentDecode_eq_self_iff]

/-- A user and a password that come back from between the marks stand for themselves. -/
theorem stands_of_takeUser {u p rest : List Char}
    (h : takeUser (user.toList ++ ':' :: (password.toList ++ '@' :: more))
      = (some u, some p, rest))
    (hu : percentDecode (String.ofList u) = user)
    (hp : percentDecode (String.ofList p) = password) :
    standsAsUser user ∧ standsAsPassword password := by
  obtain ⟨heq, hfree, hnot⟩ := takeUser_eq_some_iff.1 h
  have hcolon : ':' ∉ u := fun h => Bool.false_ne_true (hfree ':' h).symm
  obtain ⟨rfl, hbehind⟩ := eq_of_append_cons heq hcolon (length_le_of_percentDecode hu)
  obtain ⟨rfl, -⟩ := eq_of_append_cons hbehind hnot (length_le_of_percentDecode hp)
  rw [String.ofList_toList] at hu hp
  exact ⟨standsAsUser_iff.2 ⟨hfree, hu⟩, standsAsPassword_iff.2 ⟨hnot, hp⟩⟩

end

/-- The parts of a URL as texts. -/
structure Parts where
  user : String
  password : String
  host : String
  port : String
  database : String

/-- The parts with the marks between them. -/
def Parts.joined (d : Parts) : List Char :=
  d.user.toList ++ ':' :: (d.password.toList ++ '@' ::
    (d.host.toList ++ ':' :: (d.port.toList ++ '/' :: d.database.toList)))

/-- The URL names these parts, its port as a number. -/
structure Parts.NamedBy (d : Parts) (port : Int) (url : DatabaseUrl) : Prop where
  user : url.user = some d.user
  password : url.password = some d.password
  host : url.host = some d.host
  port : url.port = some port
  database : url.database = some d.database

section

variable {d : Parts} {port : Nat}

theorem Parts.parse_joined (huser : standsAsUser d.user) (hpassword : standsAsPassword d.password)
    (hhost : isPlainHost d.host) (hport : readNat? d.port.toList = some port)
    (hdatabase : '?' ∉ d.database.toList) :
    parse (String.ofList (serverLead.toList ++ d.joined)) =
      (Number.readInteger d.port).map fun n =>
        { driver := "postgresql+psycopg2"
          user := some d.user
          password := some d.password
          host := some d.host
          port := some n
          database := some d.database
          options := [] } := by
  obtain ⟨hfree, huser⟩ := standsAsUser_iff.1 huser
  obtain ⟨hnot, hpassword⟩ := standsAsPassword_iff.1 hpassword
  have htake : takeUser d.joined = (some d.user.toList, some d.password.toList,
      d.host.toList ++ ':' :: (d.port.toList ++ '/' :: d.database.toList)) :=
    takeUser_eq_some_iff.2 ⟨rfl, hfree, hnot⟩
  rw [parse_of_takeUser htake hhost hport hdatabase, String.ofList_toList, String.ofList_toList,
    huser, hpassword]

/-- The joined parts are read as they are exactly when the user and the password stand for
themselves and the port is no longer than an integer may be. -/
theorem Parts.names_iff (hhost : isPlainHost d.host) (hport : readNat? d.port.toList = some port)
    (hdatabase : '?' ∉ d.database.toList) :
    (∃ url, parse (String.ofList (serverLead.toList ++ d.joined)) = .ok url ∧
      d.NamedBy port url) ↔
      standsAsUser d.user ∧ standsAsPassword d.password ∧ d.port.length ≤ Number.maxDigits := by
  have hnumber := Number.readInteger_of_readNat? hport
  constructor
  · rintro ⟨url, hparse, hnames⟩
    obtain ⟨u, p, rest, htake, hu, hp⟩ :=
      exists_takeUser_of_parse hparse hnames.user hnames.password
    obtain ⟨huser, hpassword⟩ := stands_of_takeUser htake hu hp
    refine ⟨huser, hpassword, Nat.le_of_not_lt fun hlong => ?_⟩
    rw [if_pos hlong] at hnumber
    rw [Parts.parse_joined huser hpassword hhost hport hdatabase, hnumber] at hparse
    cases hparse
  · rintro ⟨huser, hpassword, hshort⟩
    rw [if_neg (Nat.not_lt_of_le hshort)] at hnumber
    rw [Parts.parse_joined huser hpassword hhost hport hdatabase, hnumber]
    exact ⟨_, rfl, rfl, rfl, rfl, rfl, rfl⟩

end

/-- Of a password it is only shown that there is one. -/
theorem shown_eq_of_password (u : DatabaseUrl) (p q : String) :
    { u with password := some p }.shown = { u with password := some q }.shown :=
  rfl

end DatabaseUrl

/-! ## The URL that is made of parts -/

namespace Config

open DatabaseUrl

/-- The parts that the variables give, each with its usual value. -/
def Variables.databaseParts (v : Variables) : Parts where
  user := v.get "DB_USER" "postgres"
  password := v.get "DB_PASSWORD" ""
  host := v.get "DB_HOST" "localhost"
  port := v.get "DB_PORT" "5432"
  database := v.get "DB_NAME" "telemetry"

theorem toList_joined (lead user password host port database : String) :
    (lead ++ user ++ ":" ++ password ++ "@" ++ host ++ ":" ++ port ++ "/" ++ database).toList =
      lead.toList ++ Parts.joined ⟨user, password, host, port, database⟩ := by
  have hmarks : ":".toList = [':'] ∧ "@".toList = ['@'] ∧ "/".toList = ['/'] := ⟨rfl, rfl, rfl⟩
  simp only [String.toList_append, Parts.joined, hmarks, List.append_assoc, List.cons_append,
    List.nil_append]

variable {v : Variables}

theorem databaseUrl_of_parts (hurl : v.given? "DATABASE_URL" = none)
    (hurl' : v.given? "DB_URL" = none) :
    databaseUrl v = String.ofList (serverLead.toList ++ v.databaseParts.joined) := by
  rw [databaseUrl, hurl, hurl', ← String.toList_inj, String.toList_ofList]
  exact toList_joined serverLead _ _ _ _ _

/-- The URL that is made of the parts of a database names them exactly when the marks and
escapes of URLs leave its user and password alone. -/
theorem names_parts_iff {port : Nat} (hurl : v.given? "DATABASE_URL" = none)
    (hurl' : v.given? "DB_URL" = none) (hhost : isPlainHost v.databaseParts.host)
    (hport : readNat? v.databaseParts.port.toList = some port)
    (hdatabase : '?' ∉ v.databaseParts.database.toList) :
    (∃ url, parse (databaseUrl v) = .ok url ∧ v.databaseParts.NamedBy port url) ↔
      standsAsUser v.databaseParts.user ∧ standsAsPassword v.databaseParts.password ∧
        v.databaseParts.port.length ≤ Number.maxDigits := by
  rw [databaseUrl_of_parts hurl hurl']
  exact Parts.names_iff hhost hport hdatabase

/-- In a password the marks of the other parts stand for themselves, and so does a percent sign
that no two digits follow. -/
theorem names_parts_beside_marks :
    let v : Variables := [("DB_USER", "relay@east"), ("DB_PASSWORD", "/100%:[?]")]
    v.given? "DATABASE_URL" = none ∧ v.given? "DB_URL" = none ∧
      isPlainHost v.databaseParts.host ∧ readNat? v.databaseParts.port.toList = some 5432 ∧
      '?' ∉ v.databaseParts.database.toList ∧
      ∃ url, parse (databaseUrl v) = .ok url ∧ v.databaseParts.NamedBy 5432 url := by
  intro v
  have hurl : v.given? "DATABASE_URL" = none := by decide
  have hurl' : v.given? "DB_URL" = none := by decide
  have hhost : isPlainHost v.databaseParts.host := by decide
  have hport : readNat? v.databaseParts.port.toList = some 5432 := by decide
  have hdatabase : '?' ∉ v.databaseParts.database.toList := by decide
  exact ⟨hurl, hurl', hhost, hport, hdatabase,
    (names_parts_iff hurl hurl' hhost hport hdatabase).2
      ⟨by decide, by decide, by decide⟩⟩

/-- A password with `@` in it is cut there, and what follows is taken for a part of the host. -/
theorem misnamed_of_at_sign :
    let v : Variables := [("DB_PASSWORD", "p@ss")]
    v.given? "DATABASE_URL" = none ∧ v.given? "DB_URL" = none ∧ v.databaseParts.user ≠ "" ∧
      isPlainHost v.databaseParts.host ∧ readNat? v.databaseParts.port.toList = some 5432 ∧
      '?' ∉ v.databaseParts.database.toList ∧
      parse (databaseUrl v) = .ok
        { driver := "postgresql+psycopg2"
          user := some "postgres"
          password := some "p"
          host := some "ss@localhost"
          port := some 5432
          database := some "telemetry"
          options := [] } ∧
      ¬∃ url, parse (databaseUrl v) = .ok url ∧ v.databaseParts.NamedBy 5432 url := by
  intro v
  have hread : parse (databaseUrl v) = .ok
      { driver := "postgresql+psycopg2"
        user := some "postgres"
        password := some "p"
        host := some "ss@localhost"
        port := some 5432
        database := some "telemetry"
        options := [] } := by
    have htake : takeUser v.databaseParts.joined = (some "postgres".toList, some "p".toList,
        "ss@localhost".toList ++ ':' :: ("5432".toList ++ '/' :: "telemetry".toList)) := by
      decide
    have hport : readNat? "5432".toList = some 5432 := by decide
    have huser : percentDecode "postgres" = "postgres" := percentDecode_eq_self_iff.2 (by decide)
    have hpassword : percentDecode "p" = "p" := percentDecode_eq_self_iff.2 (by decide)
    rw [databaseUrl_of_parts (by decide) (by decide),
      parse_of_takeUser htake (by decide) hport (by decide), String.ofList_toList,
      String.ofList_toList, huser, hpassword, Number.readInteger_of_readNat? hport,
      if_neg (by decide)]
    rfl
  refine ⟨by decide, by decide, by decide, by decide, by decide, by decide, hread, ?_⟩
  rintro ⟨url, hparse, hnames⟩
  obtain rfl := Except.ok.inj (hread.symm.trans hparse)
  exact absurd hnames.host (by decide)

end Config
end SensorRelay
