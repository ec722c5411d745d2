import Xnestjs.Program.RedisCoreModule
import Xnestjs.Model.UrlText

/-!
# A Redis URL in place of the host

When the host of a standalone connection is a URL, its components should come out as options
exactly as they went into the URL. `_createClient` takes the user information in its escaped
form and the host with its brackets, and has no way to choose database 0 or to turn TLS off.
-/

set_option autoImplicit false

namespace Xnestjs.Analysis

open Xnestjs.Model Xnestjs.Program.GetRedisConfig Xnestjs.Program.RedisCoreModule

inductive RedisScheme where
  | redis
  | rediss
  deriving DecidableEq, Repr

def RedisScheme.scheme : RedisScheme → Scheme
  | .redis =>
    ⟨"redis".toList, by decide, by rintro c ⟨⟩; rfl, List.all_iff_forall_prop.mp (by decide),
      by decide⟩
  | .rediss =>
    ⟨"rediss".toList, by decide, by rintro c ⟨⟩; rfl, List.all_iff_forall_prop.mp (by decide),
      by decide⟩

/-- The options whose host is a URL. -/
def withUrl (o : RedisConnectionOptions) (url : String) : RedisConnectionOptions :=
  { o with host := some url, nodes := none }

/-- The options that `Redis` is constructed with have every component of the URL as it was
before it was written, and keep the option of every component that the URL does not have. -/
structure TakesOver (o : RedisConnectionOptions) (scheme : RedisScheme) (u : UrlParts)
    (opts : RedisConnectionOptions) : Prop where
  host : opts.host = some (String.ofList u.host.text)
  port : opts.settings .port = match u.port with
    | some port => .num port
    | none => o.settings .port
  username : opts.settings .username =
    if u.username = [] then o.settings .username else .str (String.ofList u.username)
  password : opts.settings .password =
    if u.password = [] then o.settings .password else .str (String.ofList u.password)
  db : opts.settings .db = match u.path with
    | .number db => .num db
    | _ => o.settings .db
  tls : (opts.settings .tls).truthy = true ↔ scheme = .rediss

def ConstructsFromUrl (newURL : String → Option Url) (e : UserinfoEncoding)
    (o : RedisConnectionOptions) (scheme : RedisScheme) (u : UrlParts) : Prop :=
  ∃ opts, createClient newURL (withUrl o (String.ofList (u.write e scheme.scheme))) =
    .ok (.standalone opts) ∧ TakesOver o scheme u opts

/-- The host is no IPv6 address and needs no escapes, neither do the user name and the
password, the number of the database is that of a double, database 0 is asked for only where it is
configured anyway, and so is a connection without TLS. -/
structure UrlIsPlain (e : UserinfoEncoding) (o : RedisConnectionOptions) (scheme : RedisScheme)
    (u : UrlParts) : Prop where
  host : ∃ n : HostName, u.host = .name n ∧ ∀ c ∈ n.text, controlSet c = false
  username : ∀ c ∈ u.username, e.keeps c = true
  password : ∀ c ∈ u.password, e.keeps c = true
  db : ∀ db, u.path = .number db → IsDouble db ∧ (db = 0 → o.settings .db = .num 0)
  tls : scheme = .redis → (o.settings .tls).truthy = false

section

variable (url : Url) (o : RedisConnectionOptions)

/-! ## What each component of a URL does to the options -/

/-- INTERNAL: the port of a URL is taken when it has one. SOURCE: redis-core.module.ts:121 -/
theorem overrideByUrl_port : (overrideByUrl url o).settings .port =
    if url.port ≠ "" then parseInt url.port.toList else o.settings .port := by
  simp (disch := decide) only [overrideByUrl, setWhen_other, setWhen_self]

/-- INTERNAL: so is its user name. SOURCE: redis-core.module.ts:122 -/
theorem overrideByUrl_username : (overrideByUrl url o).settings .username =
    if url.username ≠ "" then .str url.username else o.settings .username := by
  simp (disch := decide) only [overrideByUrl, setWhen_other, setWhen_self]

/-- INTERNAL: so is its password. SOURCE: redis-core.module.ts:123 -/
theorem overrideByUrl_password : (overrideByUrl url o).settings .password =
    if url.password ≠ "" then .str url.password else o.settings .password := by
  simp (disch := decide) only [overrideByUrl, setWhen_other, setWhen_self]

/-- INTERNAL: `tls` is switched on under `rediss:`. SOURCE: redis-core.module.ts:124-127 -/
theorem overrideByUrl_tls : (overrideByUrl url o).settings .tls =
    if url.protocol = "rediss:" then .bool true else o.settings .tls := by
  simp (disch := decide) only [overrideByUrl, setWhen_other, setWhen_self]

/-- INTERNAL: the database is taken when its index is positive.
SOURCE: redis-core.module.ts:128-129 -/
theorem overrideByUrl_db : (overrideByUrl url o).settings .db =
    if (parseInt (url.pathname.toList.drop 1)).positive then parseInt (url.pathname.toList.drop 1)
    else o.settings .db := by
  simp (disch := decide) only [overrideByUrl, setWhen_other, setWhen_self]

end

section

variable (special : String → Option Url) (ipv6 : List Char → Option (List Char))
  (e : UserinfoEncoding) (o : RedisConnectionOptions) (scheme : RedisScheme) (u : UrlParts)

/-- INTERNAL: a URL is taken for one. SOURCE: redis-core.module.ts:117-118 -/
theorem includesScheme_write :
    includesScheme (String.ofList (u.write e scheme.scheme)) = true := by
  unfold includesScheme
  rw [String.toList_ofList, decide_eq_true_eq]
  exact ⟨scheme.scheme.text, u.writtenAuthority e ++ u.path.written, by
    simp [UrlParts.write]⟩

/-- INTERNAL: a URL has characters. -/
theorem write_ne_nil : u.write e scheme.scheme ≠ [] := by
  intro h
  exact absurd (List.append_eq_nil_iff.mp h).1 scheme.scheme.nonempty

/-- What the URL is read as, once its host is. -/
def readAs (hostname : List Char) : Url :=
  ⟨String.ofList scheme.scheme.text ++ ":", String.ofList (e.encode u.username),
    String.ofList (e.encode u.password), String.ofList hostname, String.ofList u.portDigits,
    String.ofList u.path.written⟩

/-- What `Redis` is constructed with. SOURCE: redis-core.module.ts:131-134 -/
def redisArguments (url : Url) (o : RedisConnectionOptions) : RedisConnectionOptions :=
  let opts := overrideByUrl url o
  { opts with settings := Function.update opts.settings .lazyConnect (.bool true) }

/-- INTERNAL: beside the URL only `lazyConnect` is changed. SOURCE: redis-core.module.ts:131-134 -/
theorem redisArguments_settings (url : Url) (o : RedisConnectionOptions) {k : RedisSetting}
    (hk : k ≠ .lazyConnect) :
    (redisArguments url o).settings k = (overrideByUrl url o).settings k :=
  Function.update_of_ne hk _ _

/-- INTERNAL: what is constructed, by how the host is read.
SOURCE: redis-core.module.ts:117-135 -/
theorem createClient_withUrl :
    createClient (newURL special ipv6) (withUrl o (String.ofList (u.write e scheme.scheme))) =
      match readHost ipv6 u.host.written with
      | none => .error .invalidUrl
      | some hostname => .ok (.standalone (redisArguments (readAs e scheme u hostname)
          (withUrl o (String.ofList (u.write e scheme.scheme))))) := by
  have hstandalone : isStandaloneOptions
      (withUrl o (String.ofList (u.write e scheme.scheme))) = true := by
    simp [isStandaloneOptions, withUrl, write_ne_nil]
  have hcluster : isClusterOptions
      (withUrl o (String.ofList (u.write e scheme.scheme))) = false := rfl
  have hhost : (withUrl o (String.ofList (u.write e scheme.scheme))).host.getD "" =
      String.ofList (u.write e scheme.scheme) := rfl
  unfold createClient
  simp only [hcluster, hstandalone, hhost, includesScheme_write, UrlParts.newURL_write,
    Bool.false_eq_true, if_false, if_true]
  cases readHost ipv6 u.host.written with
  | none => rfl
  | some hostname => rfl

/-! ## Which components come out as they went in -/

/-- INTERNAL: the host. SOURCE: redis-core.module.ts:120 -/
theorem host_taken_iff {hostname : List Char}
    (hread : readHost ipv6 u.host.written = some hostname) :
    String.ofList hostname = String.ofList u.host.text ↔
      ∃ n : HostName, u.host = .name n ∧ ∀ c ∈ n.text, controlSet c = false := by
  rw [String.ofList_inj]
  cases hhost : u.host with
  | name n =>
    rw [hhost] at hread
    have hname : hostname = percentEncode controlSet n.text :=
      (Option.some.inj (hread.symm.trans (readHost_name ipv6 n)))
    rw [hname]
    simp only [UrlHost.text, percentEncode_eq_self_iff, UrlHost.name.injEq, exists_eq_left']
  | address a =>
    rw [hhost, readHost_address] at hread
    obtain ⟨address, -, rfl⟩ := Option.map_eq_some_iff.mp hread
    refine iff_of_false ?_ ?_
    · intro heq
      have hopen : '[' ∈ a.text := by
        rw [show a.text = (UrlHost.address a).text from rfl, ← heq]
        exact List.mem_append_left _ List.mem_cons_self
      exact absurd (a.chars _ hopen) (by decide)
    · rintro ⟨n, hn, -⟩
      cases hn

/-- INTERNAL: the user name or the password, of which an empty one is the same as none.
SOURCE: redis-core.module.ts:122-123 -/
theorem credential_taken_iff (s : List Char) (given : Value) :
    (if String.ofList (e.encode s) ≠ "" then .str (String.ofList (e.encode s)) else given) =
        (if s = [] then given else .str (String.ofList s)) ↔
      ∀ c ∈ s, e.keeps c = true := by
  by_cases hs : s = []
  · subst hs
    simp [UserinfoEncoding.encode, percentEncode]
  · have hne : String.ofList (e.encode s) ≠ "" := by
      intro h
      have hlength := length_percentEncode (fun c => !e.keeps c) s
      have hnil : percentEncode (fun c => !e.keeps c) s = [] :=
        String.ofList_eq_empty_iff.mp h
      rw [hnil] at hlength
      exact hs (List.length_eq_zero_iff.mp (Nat.le_zero.mp hlength))
    rw [if_pos hne, if_neg hs, Value.str.injEq, String.ofList_inj, e.encode_eq_self_iff]

/-- INTERNAL: the port always comes out. SOURCE: redis-core.module.ts:121 -/
theorem port_taken (given : Value) :
    (if String.ofList u.portDigits ≠ "" then parseInt u.portDigits else given) =
      match u.port with
      | some port => .num port
      | none => given := by
  unfold UrlParts.portDigits
  cases hport : u.port with
  | none => rfl
  | some n =>
    have hne : String.ofList (Nat.toDigits 10 n) ≠ "" :=
      fun h => Nat.toDigits_ne_nil (String.ofList_eq_empty_iff.mp h)
    have hle : n ≤ 65535 := u.port_le n hport
    show (if String.ofList (Nat.toDigits 10 n) ≠ "" then parseInt (Nat.toDigits 10 n)
      else given) = Value.num n
    rw [if_pos hne, parseInt_decimal]
    exact (toNumber_eq_iff n).mpr (isDouble_of_lt (by omega))

/-- INTERNAL: the database, unless it is 0 or no double has its number.
SOURCE: redis-core.module.ts:128-129 -/
theorem db_taken_iff (given : Value) :
    (if (parseInt (u.path.written.drop 1)).positive then parseInt (u.path.written.drop 1)
      else given) =
        (match u.path with
          | .number db => .num db
          | _ => given) ↔
      ∀ db, u.path = .number db → IsDouble db ∧ (db = 0 → given = .num 0) := by
  cases u.path with
  | absent => simp [UrlPath.written, parseInt, readSign, Value.positive]
  | slash => simp [UrlPath.written, parseInt, readSign, Value.positive]
  | number n =>
    simp only [UrlPath.written, List.drop_succ_cons, List.drop_zero, parseInt_decimal,
      positive_toNumber, UrlPath.number.injEq, forall_eq']
    by_cases hn : n = 0
    · subst hn
      have hzero : IsDouble 0 := isDouble_of_lt (by decide)
      simp [hzero]
    · rw [if_pos (Nat.pos_of_ne_zero hn), toNumber_eq_iff]
      simp [hn]

/-- INTERNAL: TLS. SOURCE: redis-core.module.ts:124-127 -/
theorem tls_taken_iff (given : Value) :
    ((if String.ofList scheme.scheme.text ++ ":" = "rediss:" then Value.bool true
        else given).truthy = true ↔ scheme = .rediss) ↔
      (scheme = .redis → given.truthy = false) := by
  cases scheme with
  | redis =>
    have hplain : String.ofList RedisScheme.redis.scheme.text ++ ":" ≠ "rediss:" := by decide
    simp [if_neg hplain]
  | rediss =>
    have hsecure : String.ofList RedisScheme.rediss.scheme.text ++ ":" = "rediss:" := by decide
    simp [if_pos hsecure, Value.truthy]

/-! ## The arguments of the client -/

/-- INTERNAL: the port that Redis is constructed with. SOURCE: redis-core.module.ts:121 -/
theorem arguments_port (hostname : List Char) (text : String) :
    (redisArguments (readAs e scheme u hostname) (withUrl o text)).settings .port =
      match u.port with
        | some port => .num port
        | none => o.settings .port := by
  rw [redisArguments_settings _ _ (by decide), overrideByUrl_port]
  simp only [readAs, String.toList_ofList]
  exact port_taken u _

/-- INTERNAL: the user name, as it is encoded. SOURCE: redis-core.module.ts:122 -/
theorem arguments_username (hostname : List Char) (text : String) :
    (redisArguments (readAs e scheme u hostname) (withUrl o text)).settings .username =
      if String.ofList (e.encode u.username) ≠ "" then
        .str (String.ofList (e.encode u.username))
      else o.settings .username := by
  rw [redisArguments_settings _ _ (by decide), overrideByUrl_username]
  rfl

/-- INTERNAL: the password, as it is encoded. SOURCE: redis-core.module.ts:123 -/
theorem arguments_password (hostname : List Char) (text : String) :
    (redisArguments (readAs e scheme u hostname) (withUrl o text)).settings .password =
      if String.ofList (e.encode u.password) ≠ "" then
        .str (String.ofList (e.encode u.password))
      else o.settings .password := by
  rw [redisArguments_settings _ _ (by decide), overrideByUrl_password]
  rfl

/-- INTERNAL: `tls`, by the scheme. SOURCE: redis-core.module.ts:124-127 -/
theorem arguments_tls (hostname : List Char) (text : String) :
    (redisArguments (readAs e scheme u hostname) (withUrl o text)).settings .tls =
      if String.ofList scheme.scheme.text ++ ":" = "rediss:" then .bool true
      else o.settings .tls := by
  rw [redisArguments_settings _ _ (by decide), overrideByUrl_tls]
  rfl

/-- INTERNAL: the database, by the path. SOURCE: redis-core.module.ts:128-129 -/
theorem arguments_db (hostname : List Char) (text : String) :
    (redisArguments (readAs e scheme u hostname) (withUrl o text)).settings .db =
      if (parseInt (u.path.written.drop 1)).positive then parseInt (u.path.written.drop 1)
      else o.settings .db := by
  rw [redisArguments_settings _ _ (by decide), overrideByUrl_db]
  simp only [readAs, String.toList_ofList]
  rfl

/-- INTERNAL: **one URL whose host can be read**, component by component.
SOURCE: redis-core.module.ts:117-136 -/
theorem takesOver_iff {hostname : List Char}
    (hread : readHost ipv6 u.host.written = some hostname) (text : String) :
    TakesOver o scheme u (redisArguments (readAs e scheme u hostname) (withUrl o text)) ↔
      UrlIsPlain e o scheme u := by
  have hport := arguments_port e o scheme u hostname text
  have husername := arguments_username e o scheme u hostname text
  have hpassword := arguments_password e o scheme u hostname text
  have hdb := arguments_db e o scheme u hostname text
  have htls := arguments_tls e o scheme u hostname text
  constructor
  · intro htakes
    refine ⟨(host_taken_iff ipv6 u hread).mp (Option.some.inj htakes.host), ?_, ?_, ?_, ?_⟩
    · apply (credential_taken_iff e u.username (o.settings .username)).mp
      rw [← husername, htakes.username]
    · apply (credential_taken_iff e u.password (o.settings .password)).mp
      rw [← hpassword, htakes.password]
    · apply (db_taken_iff u (o.settings .db)).mp
      rw [← hdb, htakes.db]
    · apply (tls_taken_iff scheme (o.settings .tls)).mp
      rw [← htls]
      exact htakes.tls
  · intro hplain
    refine ⟨congrArg some ((host_taken_iff ipv6 u hread).mpr hplain.host), hport, ?_, ?_, ?_, ?_⟩
    · rw [husername]
      exact (credential_taken_iff e u.username (o.settings .username)).mpr hplain.username
    · rw [hpassword]
      exact (credential_taken_iff e u.password (o.settings .password)).mpr hplain.password
    · rw [hdb]
      exact (db_taken_iff u (o.settings .db)).mpr hplain.db
    · rw [htls]
      exact (tls_taken_iff scheme (o.settings .tls)).mpr hplain.tls

/-- **The components of a URL** come out as they went in, and the missing ones keep their
options, exactly when the URL is plain. SOURCE: redis-core.module.ts:117-136 -/
theorem url_taken_over_iff :
    ConstructsFromUrl (newURL special ipv6) e o scheme u ↔ UrlIsPlain e o scheme u := by
  unfold ConstructsFromUrl
  rw [createClient_withUrl]
  cases hread : readHost ipv6 u.host.written with
  | none =>
    refine iff_of_false ?_ ?_
    · rintro ⟨opts, hopts, -⟩
      cases hopts
    · intro hplain
      obtain ⟨n, hn, -⟩ := hplain.host
      rw [hn, show (UrlHost.name n).written = n.text from rfl, readHost_name] at hread
      cases hread
  | some hostname =>
    rw [← takesOver_iff ipv6 e o scheme u hread (String.ofList (u.write e scheme.scheme))]
    constructor
    · rintro ⟨opts, hopts, htakes⟩
      cases hopts
      exact htakes
    · intro htakes
      exact ⟨_, rfl, htakes⟩

end

/-- The minimal escaping: what needs an escape in user information, and the escape character. -/
def minimalEncoding : UserinfoEncoding where
  keeps c := !userinfoSet c && c != '%'
  plain c h := by simpa using h

/-- `redis://:p%40ss@[::1]:7000/0`, over options that have a database of their own. -/
def reservedUrl : UrlParts where
  userinfo := some ([], some "p@ss".toList)
  host := .address ⟨"::1".toList, List.all_iff_forall_prop.mp (by decide)⟩
  port := some 7000
  port_le := by decide
  path := .number 0

/-- A password with an `@`, an IPv6 address and database 0 come out escaped, in brackets, and
not at all. -/
theorem reserved_components_lost :
    let o : RedisConnectionOptions :=
      { RedisConnectionOptions.empty with
        settings := fun k => if k = .db then .num 2 else .undefined }
    let newURL := newURL (fun _ => none) some
    (∃ opts, createClient newURL (withUrl o (String.ofList
        (reservedUrl.write minimalEncoding RedisScheme.redis.scheme))) = .ok (.standalone opts) ∧
      opts.host = some "[::1]" ∧ opts.settings .password = .str "p%40ss" ∧
      opts.settings .db = .num 2) ∧
    ¬ ConstructsFromUrl newURL minimalEncoding o .redis reservedUrl := by
  intro o newURL
  have hread : readHost some reservedUrl.host.written = some "[::1]".toList := rfl
  have hencode : minimalEncoding.encode reservedUrl.password = "p%40ss".toList := by decide
  have hclient := createClient_withUrl (fun _ => none) some minimalEncoding o .redis reservedUrl
  rw [hread] at hclient
  refine ⟨⟨_, hclient, rfl, ?_, ?_⟩, ?_⟩
  · rw [redisArguments_settings _ _ (by decide), overrideByUrl_password]
    simp only [readAs, hencode]
    rfl
  · rw [redisArguments_settings _ _ (by decide), overrideByUrl_db]
    rfl
  · rintro ⟨opts, hopts, htakes⟩
    have hhost := htakes.host
    cases Except.ok.inj (hopts.symm.trans hclient)
    exact absurd (Option.some.inj hhost) (by decide)

end Xnestjs.Analysis
