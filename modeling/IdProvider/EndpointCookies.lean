/-
The cookies of an authenticated endpoint: how they are written, how a request
header is read, and the CSRF check on what was read.
-/
import IdProvider.AuthCore
import IdProvider.RequestSchemas
import IdProvider.UriComponents

namespace IdProvider

open BffSession

/-! ## `utils/cookie.ts` -/

def serializeCookie (name value : List Char) (options : CookieOptions) :
    List Char :=
  setCookieText name value options

/-! ## `authenticated-endpoint-adapter.ts` -/

namespace AuthenticatedEndpoint

inductive EndpointError where
  | uriMalformed
  | api (error : ApiError)

inductive AuthTokenSource where
  | bearer
  | cookie
  deriving DecidableEq

def authHeaderPrefix : List Char := "Bearer ".toList

def accessTokenCookieName : List Char := "idp_access_token".toList

def csrfTokenCookieName : List Char := "idp_csrf_token".toList

/-- The own properties of the record. -/
abbrev CookieRecord := List Char → Option (List Char)

def CookieRecord.empty : CookieRecord := fun _ => none

/-- `cookies[key] = value`; a text is no prototype, so `__proto__` is left
alone. -/
def CookieRecord.assign (cookies : CookieRecord) (key value : List Char) :
    CookieRecord :=
  if key = "__proto__".toList then cookies
  else fun name => if name = key then some value else cookies name

def decodeValue (value : List Char) : Except EndpointError (List Char) :=
  match decodeURIComponent value with
  | none => .error .uriMalformed
  | some text => .ok text

/-- One pair of the header.  A value that does not decode is kept as it is. -/
def readPair (cookies : CookieRecord) (pair : List Char) :
    Except EndpointError CookieRecord :=
  match pair.dropWhile (fun c => decide (c ≠ '=')) with
  | [] => pure cookies
  | _ :: rest =>
      let name := pair.takeWhile fun c => decide (c ≠ '=')
      let key := trimChars name
      let value := trimChars rest
      if name = [] ∨ key = [] then pure cookies
      else do
        let decoded ← tryCatch (decodeValue value) fun _ => pure value
        pure (cookies.assign key decoded)

def parseCookieHeader (cookieHeader : Option (List Char)) :
    Except EndpointError CookieRecord :=
  match cookieHeader with
  | none => pure .empty
  | some header =>
      if header = [] then pure .empty
      else (header.splitOn ';').foldlM readPair .empty

def unauthorized (message : String) : EndpointError :=
  .api ⟨401, "unauthorized", message⟩

def getTokenFromRequest (authorization cookieHeader : Option (List Char)) :
    Except EndpointError (List Char × AuthTokenSource) :=
  match authorization.filter authHeaderPrefix.isPrefixOf with
  | some authorization =>
      let token := trimChars (authorization.drop authHeaderPrefix.length)
      if utf16Units token < 16 then throw (unauthorized "Invalid bearer token")
      else pure (token, .bearer)
  | none => do
      let cookies ← parseCookieHeader cookieHeader
      match cookies accessTokenCookieName with
      | none => throw (unauthorized "Missing access token")
      | some token =>
          if token = [] ∨ utf16Units token < 16 then
            throw (unauthorized "Missing access token")
          else pure (token, .cookie)

def isSafeMethod (method : String) : Bool :=
  method == "GET" || method == "HEAD" || method == "OPTIONS" ||
    method == "TRACE"

def csrfInvalid : EndpointError :=
  .api ⟨403, "csrf_invalid", "Invalid CSRF token"⟩

def assertCsrf (method : String) (source : AuthTokenSource)
    (cookieHeader csrfHeader : Option (List Char)) :
    Except EndpointError Unit :=
  if source ≠ .cookie ∨ isSafeMethod method = true then pure ()
  else do
    let cookies ← parseCookieHeader cookieHeader
    match cookies csrfTokenCookieName, csrfHeader with
    | some csrfCookie, some csrfHeader =>
        if csrfCookie = [] ∨ csrfHeader = [] ∨ csrfCookie ≠ csrfHeader then
          throw csrfInvalid
        else pure ()
    | _, _ => throw csrfInvalid

/-- `payload` is what `readPayload` makes of the body. -/
structure EndpointRequest (Body : Type) where
  method : String
  authorization : Option (List Char)
  cookie : Option (List Char)
  csrfToken : Option (List Char)
  payload : Body

/-- `safeParse` gives the parsed payload or the message of its error. -/
structure EndpointOptions (Body Payload Auth Result : Type) where
  authenticate : List Char → Except EndpointError Auth
  safeParse : Body → Except String Payload
  handler : EndpointRequest Body → Payload → Auth →
    Except EndpointError Result

section Adapter

variable {Body Payload Auth Result : Type}

/-- What a request has to pass before it is authenticated. -/
def gate (request : EndpointRequest Body) :
    Except EndpointError (List Char × AuthTokenSource) := do
  let authToken ← getTokenFromRequest request.authorization request.cookie
  assertCsrf request.method authToken.2 request.cookie request.csrfToken
  pure authToken

def authenticatedEndpointAdapter
    (options : EndpointOptions Body Payload Auth Result)
    (request : EndpointRequest Body) : Except EndpointError Result := do
  let authToken ← gate request
  let auth ← options.authenticate authToken.1
  match options.safeParse request.payload with
  | .error message => throw (.api ⟨400, "validation_error", message⟩)
  | .ok payload => options.handler request payload auth

end Adapter

/-! ## Reading a header -/

/-- The key and the value that a pair assigns, if it does. -/
def pairOf (pair : List Char) : Option (List Char × List Char) :=
  match pair.dropWhile (fun c => decide (c ≠ '=')) with
  | [] => none
  | _ :: rest =>
      let key := trimChars (pair.takeWhile fun c => decide (c ≠ '='))
      if key = [] then none
      else
        some (key, (decodeURIComponent (trimChars rest)).getD (trimChars rest))

/-- A pair never makes the loop throw. -/
theorem readPair_eq (cookies : CookieRecord) (pair : List Char) :
    readPair cookies pair = .ok
      ((pairOf pair).elim cookies fun entry =>
        cookies.assign entry.1 entry.2) := by
  unfold readPair pairOf
  cases pair.dropWhile (fun c => decide (c ≠ '=')) with
  | nil => rfl
  | cons c rest =>
      dsimp only
      by_cases hkey : trimChars (pair.takeWhile fun c => decide (c ≠ '=')) = []
      · rw [if_pos (Or.inr hkey), if_pos hkey]
        rfl
      · have hname : ¬ (pair.takeWhile (fun c => decide (c ≠ '=')) = [] ∨
            trimChars (pair.takeWhile fun c => decide (c ≠ '=')) = []) := by
          rintro (hname | hnil)
          · rw [hname] at hkey
            exact hkey rfl
          · exact hkey hnil
        rw [if_neg hname, if_neg hkey, decodeValue]
        cases decodeURIComponent (trimChars rest) <;> rfl

def readPairs (pairs : List (List Char)) (cookies : CookieRecord) :
    CookieRecord :=
  (pairs.filterMap pairOf).foldl
    (fun cookies entry => cookies.assign entry.1 entry.2) cookies

theorem foldlM_readPair (pairs : List (List Char)) (cookies : CookieRecord) :
    pairs.foldlM readPair cookies = .ok (readPairs pairs cookies) := by
  induction pairs generalizing cookies with
  | nil => rfl
  | cons pair pairs ih =>
      rw [List.foldlM_cons, readPair_eq]
      refine (ih _).trans ?_
      rw [readPairs, readPairs]
      cases hpair : pairOf pair with
      | none => rw [List.filterMap_cons_none hpair]; rfl
      | some entry => rw [List.filterMap_cons_some hpair]; rfl

theorem parseCookieHeader_ok (cookieHeader : Option (List Char)) :
    ∃ cookies, parseCookieHeader cookieHeader = .ok cookies := by
  unfold parseCookieHeader
  cases cookieHeader with
  | none => exact ⟨_, rfl⟩
  | some header =>
      dsimp only
      split
      · exact ⟨_, rfl⟩
      · exact ⟨_, foldlM_readPair _ _⟩

/-! ## The cookies of a browser -/

/-- A cookie that was set, with the options it was set with. -/
structure SetCookie where
  name : List Char
  value : List Char
  options : CookieOptions

def SetCookie.text (cookie : SetCookie) : List Char :=
  serializeCookie cookie.name cookie.value cookie.options

/-- The header of a browser that holds these cookies. -/
def cookieHeader (cookies : List SetCookie) : List Char :=
  joinParts (cookies.map fun cookie => nameValuePart cookie.text)

def objectPrototypeNames : List String :=
  ["constructor", "__defineGetter__", "__defineSetter__", "hasOwnProperty",
    "__lookupGetter__", "__lookupSetter__", "isPrototypeOf",
    "propertyIsEnumerable", "toString", "valueOf", "__proto__",
    "toLocaleString"]

theorem span_equals {name : List Char} (rest : List Char) (hname : '=' ∉ name) :
    (name ++ '=' :: rest).takeWhile (fun c => decide (c ≠ '=')) = name ∧
      (name ++ '=' :: rest).dropWhile (fun c => decide (c ≠ '=')) =
        '=' :: rest := by
  have hkept : ∀ c ∈ name, decide (c ≠ '=') = true :=
    fun c hc => decide_eq_true fun heq => hname (heq ▸ hc)
  rw [List.takeWhile_append_of_pos hkept, List.dropWhile_append_of_pos hkept]
  simp

section Pair

variable {name : List Char}

theorem pairOf_raw {rawName : List Char} (value : List Char)
    (hraw : '=' ∉ rawName) (htrim : trimChars rawName = name)
    (hname : name ≠ []) :
    pairOf (rawName ++ '=' :: encodeURIComponent value) =
      some (name, value) := by
  obtain ⟨htake, hdrop⟩ := span_equals (encodeURIComponent value) hraw
  have hvalue := (trimChars_of_not_space (not_space_of_not_delimiter
    (not_delimiter_encodeURIComponent value))).1
  rw [pairOf, hdrop]
  dsimp only
  rw [htake, htrim, if_neg hname, hvalue,
    decodeURIComponent_encodeURIComponent, Option.getD_some]

/-- A cookie is read back, with and without the space before it. -/
theorem pairOf_part (hname : IsToken name) (value : List Char) :
    pairOf (name ++ '=' :: encodeURIComponent value) = some (name, value) ∧
      pairOf (' ' :: (name ++ '=' :: encodeURIComponent value)) =
        some (name, value) := by
  have hequals : '=' ∉ name := fun hmem =>
    absurd (hname.not_delimiter _ hmem) (by decide)
  have hspaced : '=' ∉ ' ' :: name := by
    rw [List.mem_cons, not_or]
    exact ⟨by decide, hequals⟩
  obtain ⟨htrim, htrimSpaced⟩ := trimChars_of_not_space
    (not_space_of_not_delimiter hname.not_delimiter)
  exact ⟨pairOf_raw value hequals htrim hname.1,
    @pairOf_raw name (' ' :: name) value hspaced htrimSpaced hname.1⟩

end Pair

/-- The record after assigning the cookies one by one. -/
def assignAll (cookies : List SetCookie) (record : CookieRecord) :
    CookieRecord :=
  cookies.foldl (fun record cookie => record.assign cookie.name cookie.value)
    record

theorem assignAll_eq_some {cookies : List SetCookie} {record : CookieRecord}
    (hnames : (cookies.map SetCookie.name).Nodup)
    (hown : ∀ cookie ∈ cookies, cookie.name ≠ "__proto__".toList)
    {name value : List Char} :
    assignAll cookies record name = some value ↔
      (∃ cookie ∈ cookies, cookie.name = name ∧ cookie.value = value) ∨
        name ∉ cookies.map SetCookie.name ∧ record name = some value := by
  induction cookies generalizing record with
  | nil => simp [assignAll]
  | cons cookie cookies ih =>
      rw [List.map_cons, List.nodup_cons] at hnames
      rw [List.forall_mem_cons] at hown
      have hassign : record.assign cookie.name cookie.value name =
          if name = cookie.name then some cookie.value else record name := by
        rw [CookieRecord.assign, if_neg hown.1]
      rw [assignAll, List.foldl_cons, ← assignAll, ih hnames.2 hown.2, hassign,
        List.exists_mem_cons_iff, List.map_cons, List.mem_cons, not_or]
      by_cases hname : name = cookie.name
      · subst hname
        have hrest : ¬ ∃ other ∈ cookies,
            other.name = cookie.name ∧ other.value = value := by
          rintro ⟨other, hother, hsame, -⟩
          exact hnames.1 (List.mem_map.mpr ⟨other, hother, hsame⟩)
        simp [hnames.1, hrest]
      · simp [hname, Ne.symm hname]

theorem readPairs_header {cookies : List SetCookie}
    (htokens : ∀ cookie ∈ cookies, IsToken cookie.name)
    (record : CookieRecord) :
    readPairs (cookies.map fun cookie => ' ' :: nameValuePart cookie.text)
        record = assignAll cookies record ∧
      readPairs (cookies.map fun cookie => nameValuePart cookie.text) record =
        assignAll cookies record := by
  have hentries (read : SetCookie → List Char)
      (hread : ∀ cookie ∈ cookies,
        pairOf (read cookie) = some (cookie.name, cookie.value)) :
      readPairs (cookies.map read) record = assignAll cookies record := by
    have hpairs : (cookies.map read).filterMap pairOf =
        cookies.map fun cookie => (cookie.name, cookie.value) := by
      rw [List.filterMap_map, ← List.filterMap_eq_map]
      exact List.filterMap_congr hread
    rw [readPairs, hpairs, List.foldl_map, assignAll]
  constructor
  · apply hentries
    intro cookie hcookie
    have htoken := htokens cookie hcookie
    rw [SetCookie.text, serializeCookie,
      (nameValuePart_setCookieText _ _ htoken).1]
    exact (pairOf_part htoken cookie.value).2
  · apply hentries
    intro cookie hcookie
    have htoken := htokens cookie hcookie
    rw [SetCookie.text, serializeCookie,
      (nameValuePart_setCookieText _ _ htoken).1]
    exact (pairOf_part htoken cookie.value).1

theorem parse_cookieHeader {cookies : List SetCookie}
    (htokens : ∀ cookie ∈ cookies, IsToken cookie.name) :
    parseCookieHeader (some (cookieHeader cookies)) =
      .ok (assignAll cookies .empty) := by
  cases cookies with
  | nil => rfl
  | cons cookie cookies =>
      rw [List.forall_mem_cons] at htokens
      have hpart (one : SetCookie) (hone : IsToken one.name) :
          ';' ∉ nameValuePart one.text := by
        obtain ⟨heq, hpart⟩ :=
          nameValuePart_setCookieText one.value one.options hone
        rw [SetCookie.text, serializeCookie, heq]
        exact hpart
      have hsplit : (cookieHeader (cookie :: cookies)).splitOn ';' =
          nameValuePart cookie.text :: cookies.map
            fun cookie => ' ' :: nameValuePart cookie.text := by
        rw [cookieHeader, List.map_cons, splitOn_joinParts, List.map_map]
        · rfl
        · rw [List.forall_mem_cons]
          refine ⟨hpart cookie htokens.1, ?_⟩
          intro part hmem
          obtain ⟨one, hone, rfl⟩ := List.mem_map.mp hmem
          exact hpart one (htokens.2 one hone)
      have hfirst : readPairs [nameValuePart cookie.text] .empty =
          assignAll [cookie] .empty :=
        (@readPairs_header [cookie] (by simpa using htokens.1) .empty).2
      have hnonempty : cookieHeader (cookie :: cookies) ≠ [] := by
        intro hnil
        rw [hnil, List.splitOn_nil] at hsplit
        obtain ⟨hempty, -⟩ := List.cons.inj hsplit
        obtain ⟨heq, -⟩ :=
          nameValuePart_setCookieText cookie.value cookie.options htokens.1
        rw [SetCookie.text, serializeCookie, heq] at hempty
        simp at hempty
      rw [parseCookieHeader, if_neg hnonempty, foldlM_readPair, hsplit]
      have hcons : readPairs (nameValuePart cookie.text ::
          cookies.map fun cookie => ' ' :: nameValuePart cookie.text) .empty =
          readPairs (cookies.map fun cookie => ' ' :: nameValuePart cookie.text)
            (readPairs [nameValuePart cookie.text] .empty) := by
        simp only [readPairs, List.filterMap_cons]
        cases pairOf (nameValuePart cookie.text) <;> rfl
      rw [hcons, hfirst, (readPairs_header htokens.2 _).1]
      rfl

/-! ## The gate -/

section Gate

variable {Body Payload Auth Result : Type} {request : EndpointRequest Body}

/-- The header and the cookie that pass the check. -/
theorem assertCsrf_ok {method : String}
    {cookieHeader csrfHeader : Option (List Char)}
    (hok : assertCsrf method .cookie cookieHeader csrfHeader = .ok ())
    (hmethod : isSafeMethod method = false) :
    ∃ cookies value, parseCookieHeader cookieHeader = .ok cookies ∧
      cookies csrfTokenCookieName = some value ∧ value ≠ [] ∧
        csrfHeader = some value := by
  obtain ⟨cookies, hcookies⟩ := parseCookieHeader_ok cookieHeader
  refine ⟨cookies, ?_⟩
  have hchecks : ¬ (AuthTokenSource.cookie ≠ .cookie ∨
      isSafeMethod method = true) := by
    rw [hmethod]
    simp
  rw [assertCsrf, if_neg hchecks, hcookies] at hok
  cases hcookie : cookies csrfTokenCookieName with
  | none =>
      simp only [bind, Except.bind, hcookie] at hok
      cases hok
  | some value =>
      cases csrfHeader with
      | none =>
          simp only [bind, Except.bind, hcookie] at hok
          cases hok
      | some header =>
          simp only [bind, Except.bind, hcookie] at hok
          split at hok
          case isTrue => cases hok
          case isFalse hsame =>
            rw [not_or, not_or, not_not] at hsame
            exact ⟨value, hcookies, rfl, hsame.1, by rw [hsame.2.2]⟩

theorem gate_ok {authToken : List Char × AuthTokenSource}
    (hok : gate request = .ok authToken) :
    getTokenFromRequest request.authorization request.cookie = .ok authToken ∧
      assertCsrf request.method authToken.2 request.cookie
        request.csrfToken = .ok () := by
  unfold gate at hok
  cases htoken : getTokenFromRequest request.authorization request.cookie with
  | error error =>
      rw [htoken] at hok
      cases hok
  | ok found =>
      rw [htoken] at hok
      cases hcsrf : assertCsrf request.method found.2 request.cookie
          request.csrfToken with
      | error error =>
          simp only [bind, Except.bind, hcsrf] at hok
          cases hok
      | ok done =>
          simp only [bind, Except.bind, hcsrf] at hok
          cases hok
          exact ⟨rfl, hcsrf⟩

/-- The cookies of a browser are read back as they were set, every header is
read, and an unsafe request with the cookie token has to repeat the CSRF
cookie. -/
theorem endpointCookies {cookies : List SetCookie}
    (hnames : (cookies.map SetCookie.name).Nodup)
    (htokens : ∀ cookie ∈ cookies, IsToken cookie.name ∧
      cookie.name ∉ objectPrototypeNames.map String.toList) :
    (∃ record, parseCookieHeader (some (cookieHeader cookies)) = .ok record ∧
      ∀ name value, record name = some value ↔
        ∃ cookie ∈ cookies, cookie.name = name ∧ cookie.value = value) ∧
    (∀ header, ∃ record, parseCookieHeader header = .ok record) ∧
    (∀ (Body : Type) (request : EndpointRequest Body) (token : List Char),
      gate request = .ok (token, .cookie) →
      isSafeMethod request.method = false →
      ∃ record value, parseCookieHeader request.cookie = .ok record ∧
        record csrfTokenCookieName = some value ∧ value ≠ [] ∧
          request.csrfToken = some value) ∧
    ∀ (Body Payload Auth Result : Type)
      (options : EndpointOptions Body Payload Auth Result)
      (request : EndpointRequest Body) (error : EndpointError),
      gate request = .error error →
      authenticatedEndpointAdapter options request = .error error := by
  refine ⟨⟨assignAll cookies .empty,
    parse_cookieHeader fun cookie hmem => (htokens cookie hmem).1, ?_⟩,
    parseCookieHeader_ok, ?_, ?_⟩
  · intro name value
    have hown : ∀ cookie ∈ cookies, cookie.name ≠ "__proto__".toList :=
      fun cookie hmem hproto => (htokens cookie hmem).2
        (hproto ▸ List.mem_map_of_mem (by decide))
    rw [assignAll_eq_some hnames hown]
    simp [CookieRecord.empty]
  · intro Body request token hgate hmethod
    exact assertCsrf_ok (gate_ok hgate).2 hmethod
  · intro Body Payload Auth Result options request error hgate
    rw [authenticatedEndpointAdapter, hgate]
    rfl

end Gate

namespace EndpointCookiesWitness

def options : CookieOptions :=
  { httpOnly := true, secure := true, sameSite := some .lax, path := none,
    maxAge := some 900 }

/-- A token, and a value that has to be escaped. -/
def cookies : List SetCookie :=
  [⟨"idp_access_token".toList, "at_0123456789abcdef".toList, options⟩,
    ⟨"idp_csrf_token".toList, "a; b=%é".toList, options⟩]

theorem endpointCookies_tokens :
    cookieHeader cookies = ("idp_access_token=at_0123456789abcdef; " ++
        "idp_csrf_token=a%3B%20b%3D%25%C3%A9").toList ∧
      ∃ record, parseCookieHeader (some (cookieHeader cookies)) = .ok record ∧
        ∀ name value, record name = some value ↔
          ∃ cookie ∈ cookies, cookie.name = name ∧ cookie.value = value := by
  have hnames : (cookies.map SetCookie.name).Nodup := by decide
  have htoken (cookie : SetCookie) (hmem : cookie ∈ cookies) :
      IsToken cookie.name ∧
        cookie.name ∉ objectPrototypeNames.map String.toList := by
    have hcheck : (cookies.all fun cookie =>
        !cookie.name.isEmpty && cookie.name.all isTokenChar &&
          !(objectPrototypeNames.map String.toList).contains cookie.name) =
        true := by decide
    have hone := List.all_eq_true.mp hcheck cookie hmem
    simp only [Bool.and_eq_true, Bool.not_eq_true', List.all_eq_true,
      List.isEmpty_eq_false_iff] at hone
    exact ⟨⟨hone.1.1, hone.1.2⟩, by simpa using hone.2⟩
  exact ⟨by decide, (endpointCookies hnames htoken).1⟩

end EndpointCookiesWitness

end AuthenticatedEndpoint

end IdProvider
