import Gorb.LocalStore
import Mathlib.Data.List.Chain

/-!
# The store URLs

`NewStore` reads the store from a list of URLs. A loop parses each one with `url.Parse` and keeps
the scheme, lowercased, and the path of the URL before it: a scheme or a path that is set must be
the next URL's, and `""` stands for unset. After the loop the scheme picks the backend, and only
then is a store created.

`newStoreConfig_ok_iff` says which lists pass, for any `parse`: those whose URLs all parse and in
which the scheme and the path of each URL are unset or those of the next (`Agrees`, a condition on
neighbours only); the scheme and the path used are the last URL's. An unset path or scheme lets the
next URL have any, so URLs that differ pass (`store_urls_apart_accepted`).

`urlParse` is `url.Parse` for the fields the loop reads, enough to evaluate concrete URLs.
-/

namespace Gorb

/-- The fields of `url.URL` that `NewStore` reads. -/
structure URL where
  Scheme : String
  Host : String
  Path : String
  deriving DecidableEq, Repr

/-- The loop of `url.getScheme`, with the characters read so far, last first: letters, then also
digits, `+`, `-` and `.`, up to a colon. Any other character, or the end, means there is no
scheme. -/
def getSchemeAux (rawURL : List Char) : List Char → List Char → Except String (List Char × List Char)
  | _, [] => .ok ([], rawURL)
  | seen, c :: cs =>
    if c.isAlpha then getSchemeAux rawURL (c :: seen) cs
    else if c.isDigit || c == '+' || c == '-' || c == '.' then
      if seen.isEmpty then .ok ([], rawURL) else getSchemeAux rawURL (c :: seen) cs
    else if c == ':' then
      if seen.isEmpty then .error "missing protocol scheme" else .ok (seen.reverse, cs)
    else .ok ([], rawURL)

/-- `url.getScheme`: the scheme and the rest of the URL. -/
def getScheme (rawURL : List Char) : Except String (List Char × List Char) :=
  getSchemeAux rawURL [] rawURL

/-- Whether a character is an ASCII control character. -/
def isCTL (c : Char) : Bool :=
  c.toNat < 0x20 || c.toNat == 0x7f

/-- The end of `url.parse` for a URL with no opaque part: `//` starts the authority, unless there is
no scheme and a third `/` follows, and the host is what follows its last `@`; the rest is the
path. -/
def splitAuthority (scheme rest : List Char) : URL :=
  match rest with
  | '/' :: '/' :: authority =>
    if scheme ≠ [] ∨ authority.head? ≠ some '/' then
      ⟨String.mk scheme, String.mk ((authority.takeWhile (· ≠ '/')).reverse.takeWhile (· ≠ '@')).reverse,
        String.mk (authority.dropWhile (· ≠ '/'))⟩
    else ⟨String.mk scheme, "", String.mk rest⟩
  | _ => ⟨String.mk scheme, "", String.mk rest⟩

/-- `url.Parse`, for the fields `NewStore` reads: the fragment after `#` and the query after `?` are
cut off, the scheme is lowercased, and a URL with a scheme and no `/` after it is opaque, with no
host and no path. Escapes are not decoded and hosts are not checked. -/
def urlParse (rawURL : String) : Except String URL :=
  let u := rawURL.data.takeWhile (· ≠ '#')
  if u.any isCTL then .error "net/url: invalid control character in URL"
  else if u = ['*'] then .ok ⟨"", "", "*"⟩
  else match getScheme u with
    | .error e => .error e
    | .ok (scheme, rest) =>
      let scheme := scheme.map Char.toLower
      let rest := rest.takeWhile (· ≠ '?')
      if rest.head? ≠ some '/' ∧ scheme ≠ [] then .ok ⟨String.mk scheme, "", ""⟩
      else if rest.head? ≠ some '/' ∧ ':' ∈ rest.takeWhile (· ≠ '/') then
        .error "first path segment in URL cannot contain colon"
      else .ok (splitAuthority scheme rest)

example : urlParse "consul://h1" = .ok ⟨"consul", "h1", ""⟩ := rfl
example : urlParse "ETCD://u@h2:2379/x?q#f" = .ok ⟨"etcd", "h2:2379", "/x"⟩ := rfl

/-- The variables of the loop of `NewStore`: the scheme and the path so far, and the hosts. -/
structure StoreURLs where
  scheme : String
  storePath : String
  hosts : List String
  deriving DecidableEq, Repr

/-- A URL taken in: its scheme, lowercased, and its path replace the ones so far, and its host is
appended. -/
def StoreURLs.record (cm : CaseMap) (acc : StoreURLs) (uri : URL) : StoreURLs :=
  ⟨toLower cm uri.Scheme, uri.Path, acc.hosts ++ [uri.Host]⟩

/-- The two checks of `NewStore` on a URL: a scheme or a path set so far must be the URL's. -/
def checkStoreURL (cm : CaseMap) (acc : StoreURLs) (uri : URL) : Except String Unit :=
  if acc.scheme != "" && acc.scheme != toLower cm uri.Scheme then
    throw "schemes must be the same for all store URLs"
  else if acc.storePath != "" && acc.storePath != uri.Path then
    throw "paths must be the same for all store URLs"
  else pure ()

/-- The loop of `NewStore` over the store URLs, with `parse` for `url.Parse` and `cm` for the case
mapping of `strings.ToLower`. -/
def scanStoreURLs (cm : CaseMap) (parse : String → Except String URL) :
    StoreURLs → List String → Except String StoreURLs
  | acc, [] => .ok acc
  | acc, storeURL :: rest => do
    let uri ← parse storeURL
    checkStoreURL cm acc uri
    scanStoreURLs cm parse (acc.record cm uri) rest

/-- The `store.Backend` of a scheme. -/
inductive StoreBackend
  | file
  | consul
  | etcd
  | zookeeper
  | boltdb
  | mock
  deriving DecidableEq, Repr

/-- The `switch` of `NewStore` on the scheme. -/
def storeBackendOf (scheme : String) : Except String StoreBackend :=
  match scheme with
  | "file" => .ok .file
  | "consul" => .ok .consul
  | "etcd" => .ok .etcd
  | "zookeeper" => .ok .zookeeper
  | "boltdb" => .ok .boltdb
  | "mock" => .ok .mock
  | _ => .error ("unsupported uri scheme : " ++ scheme)

/-- `NewStore` up to the creation of the store: the URLs checked, then the backend of their
scheme. -/
def newStoreConfig (cm : CaseMap) (parse : String → Except String URL) (storeURLs : List String) :
    Except String (StoreBackend × StoreURLs) := do
  let acc ← scanStoreURLs cm parse ⟨"", "", []⟩ storeURLs
  let b ← storeBackendOf acc.scheme
  return (b, acc)

/-- The scheme, lowercased, and the path of a URL: what `NewStore` compares. -/
def URL.key (cm : CaseMap) (u : URL) : String × String :=
  (toLower cm u.Scheme, u.Path)

/-- What `NewStore` asks of a URL and the next one: the scheme and the path of the first are each
unset or those of the next. -/
def Agrees (prev next : String × String) : Prop :=
  (prev.1 = "" ∨ prev.1 = next.1) ∧ (prev.2 = "" ∨ prev.2 = next.2)

instance : DecidableRel Agrees := fun _ _ => inferInstanceAs (Decidable (_ ∧ _))

section Except

variable {ε α β : Type}

@[simp] theorem except_ok_bind (a : α) (f : α → Except ε β) : (Except.ok a >>= f) = f a := rfl
@[simp] theorem except_pure (a : α) : (pure a : Except ε α) = .ok a := rfl
@[simp] theorem except_throw (e : ε) : (throw e : Except ε α) = .error e := rfl

theorem except_bind_eq_ok {m : Except ε α} {f : α → Except ε β} {b : β} :
    m >>= f = .ok b ↔ ∃ a, m = .ok a ∧ f a = .ok b := by
  cases m <;> simp [bind, Except.bind]

end Except

theorem checkStoreURL_ok_iff (cm : CaseMap) (acc : StoreURLs) (uri : URL) :
    checkStoreURL cm acc uri = .ok () ↔ Agrees (acc.scheme, acc.storePath) (uri.key cm) := by
  unfold checkStoreURL Agrees URL.key
  split_ifs with h1 h2
  · simp_all
  · simp_all
  · simp only [Bool.and_eq_true, bne_iff_ne, ne_eq, not_and, not_not] at h1 h2
    simp only [except_pure, true_iff]
    exact ⟨or_iff_not_imp_left.2 h1, or_iff_not_imp_left.2 h2⟩

theorem scanStoreURLs_ok_iff (cm : CaseMap) (parse : String → Except String URL) :
    ∀ (storeURLs : List String) (acc acc' : StoreURLs),
    scanStoreURLs cm parse acc storeURLs = .ok acc' ↔
      ∃ us, storeURLs.mapM parse = .ok us ∧ (us.map (URL.key cm)).Chain Agrees (acc.scheme, acc.storePath) ∧
        acc' = us.foldl (StoreURLs.record cm) acc
  | [], acc, acc' => by
    simp only [scanStoreURLs, List.mapM_nil]
    constructor
    · intro h
      cases h
      exact ⟨[], rfl, .nil, rfl⟩
    · rintro ⟨us, h, -, rfl⟩
      cases h
      rfl
  | storeURL :: rest, acc, acc' => by
    simp only [scanStoreURLs, List.mapM_cons, except_bind_eq_ok, except_pure, Except.ok.injEq,
      scanStoreURLs_ok_iff cm parse rest]
    constructor
    · rintro ⟨uri, hp, ⟨⟩, hc, bs, hbs, hchain, rfl⟩
      exact ⟨uri :: bs, ⟨uri, hp, bs, hbs, rfl⟩, .cons ((checkStoreURL_ok_iff cm acc uri).1 hc) hchain, rfl⟩
    · rintro ⟨_, ⟨uri, hp, bs, hbs, rfl⟩, hchain, rfl⟩
      rw [List.map_cons, List.chain_cons] at hchain
      exact ⟨uri, hp, (), (checkStoreURL_ok_iff cm acc uri).2 hchain.1, bs, hbs, hchain.2, rfl⟩

theorem foldl_record (cm : CaseMap) : ∀ (us : List URL) (acc : StoreURLs),
    us.foldl (StoreURLs.record cm) acc =
      ⟨(us.getLast?.map fun u => toLower cm u.Scheme).getD acc.scheme,
        (us.getLast?.map URL.Path).getD acc.storePath, acc.hosts ++ us.map URL.Host⟩
  | [], ⟨_, _, _⟩ => by simp
  | u :: us, acc => by
    rw [List.foldl_cons, foldl_record cm us, List.getLast?_cons]
    cases us.getLast? <;> simp [StoreURLs.record]

/-- Unset scheme and path agree with any URL. -/
theorem chain_unset_iff (keys : List (String × String)) :
    keys.Chain Agrees ("", "") ↔ keys.Chain' Agrees := by
  cases keys with
  | nil => simp
  | cons k keys =>
    rw [List.chain_cons, List.Chain']
    exact and_iff_right ⟨.inl rfl, .inl rfl⟩

/-- `NewStore` goes on to create a store exactly when every URL parses, the scheme and the path of
each URL are unset or those of the next, and the last scheme names a backend. It then uses the
scheme and the path of the last URL, and the hosts of all. -/
theorem newStoreConfig_ok_iff (cm : CaseMap) (parse : String → Except String URL)
    (storeURLs : List String) (b : StoreBackend) (acc : StoreURLs) :
    newStoreConfig cm parse storeURLs = .ok (b, acc) ↔
      ∃ us, storeURLs.mapM parse = .ok us ∧ (us.map (URL.key cm)).Chain' Agrees ∧
        acc = ⟨(us.getLast?.map fun u => toLower cm u.Scheme).getD "",
          (us.getLast?.map URL.Path).getD "", us.map URL.Host⟩ ∧
        storeBackendOf acc.scheme = .ok b := by
  simp only [newStoreConfig, except_bind_eq_ok, except_pure, Except.ok.injEq, Prod.mk.injEq,
    scanStoreURLs_ok_iff, foldl_record, chain_unset_iff, List.nil_append]
  constructor
  · rintro ⟨_, ⟨us, hus, hc, rfl⟩, b', hb, rfl, rfl⟩
    exact ⟨us, hus, hc, rfl, hb⟩
  · rintro ⟨us, hus, hc, rfl, hb⟩
    exact ⟨_, ⟨us, hus, hc, rfl⟩, b, hb, rfl, rfl⟩

example : newStoreConfig .onASCII urlParse ["consul://h1/a", "consul://h2/gorb"] =
    .error "paths must be the same for all store URLs" := rfl

theorem store_urls_apart_accepted :
    ["consul://h1", "consul://h2/gorb"].mapM urlParse =
      .ok [⟨"consul", "h1", ""⟩, ⟨"consul", "h2", "/gorb"⟩] ∧
    newStoreConfig .onASCII urlParse ["consul://h1", "consul://h2/gorb"] =
      .ok (.consul, ⟨"consul", "/gorb", ["h1", "h2"]⟩) ∧
    ["//h1/x", "etcd://h2/x"].mapM urlParse = .ok [⟨"", "h1", "/x"⟩, ⟨"etcd", "h2", "/x"⟩] ∧
    newStoreConfig .onASCII urlParse ["//h1/x", "etcd://h2/x"] =
      .ok (.etcd, ⟨"etcd", "/x", ["h1", "h2"]⟩) :=
  ⟨rfl, (newStoreConfig_ok_iff .onASCII urlParse _ _ _).2
      ⟨[⟨"consul", "h1", ""⟩, ⟨"consul", "h2", "/gorb"⟩], rfl,
        List.chain'_pair.2 ⟨.inr rfl, .inl rfl⟩, rfl, rfl⟩,
    rfl, (newStoreConfig_ok_iff .onASCII urlParse _ _ _).2
      ⟨[⟨"", "h1", "/x"⟩, ⟨"etcd", "h2", "/x"⟩], rfl, List.chain'_pair.2 ⟨.inl rfl, .inr rfl⟩,
        rfl, rfl⟩⟩

end Gorb
