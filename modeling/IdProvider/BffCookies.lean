/-
What a sealed cookie of the example backend becomes on its way through a
browser, and which other texts open like one.
-/
import IdProvider.BffApp
import IdProvider.UriComponents

namespace IdProvider

open JsonText

namespace BffSession

structure BffCookieOptions where
  secure : Bool
  sameSite : SameSite
  httpOnly : Bool
  path : Option (List Char)
  maxAge : Option ℚ

/-- The options of a cookie that always has a `SameSite` part. -/
def BffCookieOptions.cookieOptions (options : BffCookieOptions) :
    CookieOptions where
  httpOnly := options.httpOnly
  secure := options.secure
  sameSite := some options.sameSite
  path := options.path
  maxAge := options.maxAge

def serializeCookie (name value : List Char) (options : BffCookieOptions) :
    List Char :=
  setCookieText name value options.cookieOptions

/-! ## A header with other cookies -/

/-- A cookie as it stands in the header. -/
structure HeaderCookie where
  name : List Char
  value : List Char

namespace HeaderCookie

def part (cookie : HeaderCookie) : List Char :=
  cookie.name ++ '=' :: cookie.value

/-- The name and value that it is read as. -/
def entry (cookie : HeaderCookie) : List Char × List Char :=
  (cookie.name, (decodeURIComponent cookie.value).getD cookie.value)

structure WellFormed (cookie : HeaderCookie) : Prop where
  token : IsToken cookie.name
  value : ∀ c ∈ cookie.value, isWhitespace c = false ∧ c ≠ ';'

end HeaderCookie

/-- The header in which a cookie that was set stands between others. -/
def headerWith (before after : List HeaderCookie) (setCookie : List Char) :
    List Char :=
  joinParts (before.map HeaderCookie.part ++
    nameValuePart setCookie :: after.map HeaderCookie.part)

theorem parseCookie_of_trim {item name value : List Char}
    (htrim : trimChars item = name ++ '=' :: value) (hname : IsToken name) :
    parseCookie item =
      some (name, (decodeURIComponent value).getD value) := by
  have hequals : '=' ∉ name := fun hmem =>
    absurd (hname.not_delimiter _ hmem) (by decide)
  rw [parseCookie, htrim, List.splitOn_append_cons_self_of_not_mem hequals]
  dsimp only
  rw [if_neg hname.1, List.intercalate_splitOn]

/-- A cookie is read back, with and without the space before it. -/
theorem parseCookie_part {cookie : HeaderCookie}
    (hwell : cookie.WellFormed) :
    ';' ∉ cookie.part ∧ parseCookie cookie.part = some cookie.entry ∧
      parseCookie (' ' :: cookie.part) = some cookie.entry := by
  have hchars : ∀ c ∈ cookie.part, isWhitespace c = false ∧ c ≠ ';' := by
    intro c hc
    rw [HeaderCookie.part, List.mem_append, List.mem_cons] at hc
    rcases hc with hc | rfl | hc
    · have hdelimiter := hwell.token.not_delimiter c hc
      refine ⟨not_space_of_not_delimiter hwell.token.not_delimiter c hc, ?_⟩
      rintro rfl
      cases hdelimiter
    · decide
    · exact hwell.value c hc
  obtain ⟨htrim, hspaced⟩ := trimChars_of_not_space fun c hc => (hchars c hc).1
  exact ⟨fun hmem => (hchars _ hmem).2 rfl,
    parseCookie_of_trim htrim hwell.token,
    parseCookie_of_trim hspaced hwell.token⟩

theorem parseCookies_parts {first : HeaderCookie} {rest : List HeaderCookie}
    (hwell : ∀ cookie ∈ first :: rest, cookie.WellFormed) :
    parseCookies (some (joinParts ((first :: rest).map HeaderCookie.part))) =
      (first :: rest).map HeaderCookie.entry := by
  have hsemicolons : ∀ part ∈ first.part :: rest.map HeaderCookie.part,
      ';' ∉ part := by
    rw [← List.map_cons]
    intro part hpart
    obtain ⟨cookie, hcookie, rfl⟩ := List.mem_map.mp hpart
    exact (parseCookie_part (hwell cookie hcookie)).1
  rw [List.forall_mem_cons] at hwell
  have hrest : (rest.map fun cookie => ' ' :: cookie.part).filterMap
      parseCookie = rest.map HeaderCookie.entry := by
    rw [List.filterMap_map, ← List.filterMap_eq_map]
    apply List.filterMap_congr
    intro cookie hcookie
    exact (parseCookie_part (hwell.2 cookie hcookie)).2.2
  rw [List.map_cons, parseCookies, splitOn_joinParts hsemicolons, List.map_map, List.filterMap_cons,
    (parseCookie_part hwell.1).2.1]
  exact congrArg (first.entry :: ·) hrest

theorem cookie_append {before after : List (List Char × List Char)}
    {name value : List Char} (hafter : ∀ entry ∈ after, entry.1 ≠ name) :
    cookie (before ++ (name, value) :: after) name = some value := by
  have hlater : after.reverse.find? (fun entry => decide (entry.1 = name)) =
      none := by
    rw [List.find?_eq_none]
    intro entry hentry
    simpa using hafter entry (List.mem_reverse.mp hentry)
  rw [cookie, List.reverse_append, List.reverse_cons, List.append_assoc,
    List.find?_append, hlater]
  simp

section Sealed

variable (env : BffEnv) {name : List Char}

/-- The backend's own cookies have token names. -/
theorem isToken_cookieName
    (hname : name = oauthStateCookieName ∨ name = sessionCookieName) :
    IsToken name := by
  have hcheck (text : List Char)
      (htext : (!text.isEmpty && text.all isTokenChar) = true) :
      IsToken text := by
    rw [Bool.and_eq_true, Bool.not_eq_true', List.isEmpty_eq_false_iff,
      List.all_eq_true] at htext
    exact htext
  rcases hname with rfl | rfl
  · exact hcheck _ (by decide)
  · exact hcheck _ (by decide)

/-- The cookie of a value comes back from a header with other cookies. -/
theorem cookie_headerWith (value : List Char) (options : BffCookieOptions)
    {before after : List HeaderCookie} (hname : IsToken name)
    (hothers : ∀ cookie ∈ before ++ after,
      cookie.WellFormed ∧ cookie.name ≠ name) :
    cookie (parseCookies (some (headerWith before after
      (serializeCookie name value options)))) name = some value := by
  let own : HeaderCookie := ⟨name, encodeURIComponent value⟩
  have hown : own.WellFormed := by
    refine ⟨hname, fun c hc => ?_⟩
    have hdelimiter := not_delimiter_encodeURIComponent value c hc
    simp only [isCookieDelimiter, Bool.or_eq_false_iff] at hdelimiter
    exact ⟨hdelimiter.1.1, by simpa using hdelimiter.1.2⟩
  have hentry : own.entry = (name, value) := by
    rw [HeaderCookie.entry, decodeURIComponent_encodeURIComponent,
      Option.getD_some]
  have hwell : ∀ cookie ∈ before ++ own :: after, cookie.WellFormed := by
    intro cookie hcookie
    rw [List.mem_append, List.mem_cons] at hcookie
    rcases hcookie with hcookie | rfl | hcookie
    · exact (hothers cookie (List.mem_append_left _ hcookie)).1
    · exact hown
    · exact (hothers cookie (List.mem_append_right _ hcookie)).1
  have hparts : before.map HeaderCookie.part ++
      nameValuePart (serializeCookie name value options) ::
        after.map HeaderCookie.part =
      (before ++ own :: after).map HeaderCookie.part := by
    rw [serializeCookie, (nameValuePart_setCookieText value _ hname).1,
      List.map_append, List.map_cons]
    rfl
  have hread : parseCookies (some (headerWith before after
      (serializeCookie name value options))) =
      (before ++ own :: after).map HeaderCookie.entry := by
    rw [headerWith, hparts]
    cases before with
    | nil => exact parseCookies_parts hwell
    | cons first before => exact parseCookies_parts hwell
  rw [hread, List.map_append, List.map_cons, hentry]
  apply cookie_append
  intro entry hmem
  obtain ⟨cookie, hcookie, rfl⟩ := List.mem_map.mp hmem
  exact (hothers cookie (List.mem_append_right _ hcookie)).2

/-- Without the secret a text has no signature but those of the values that
were sealed. -/
def Unforged (issued : Json → Prop) (presented : List Char) : Prop :=
  ∀ payload rest, presented.splitOn '.' = payload :: sign env payload :: rest →
    ∃ value, issued value ∧ payload = sealPayload value

variable {env} {issued : Json → Prop} {presented : List Char}

/-- Only sealed values open, unless one has something behind another dot. -/
theorem opensSealed_iff (hunforged : Unforged env issued presented) :
    ((∃ value, unsealValue env (some presented) = some value) →
        ∃ value, issued value ∧ presented = sealValue env value) ↔
      ∀ value suffix, issued value →
        presented ≠ sealValue env value ++ '.' :: suffix := by
  constructor
  · rintro hopens value suffix - rfl
    obtain ⟨other, -, hother⟩ := hopens
      ⟨value, unsealValue_of_extends env (Or.inr ⟨suffix, rfl⟩)⟩
    exact BffApp.sealed_ne_suffix other value suffix hother.symm
  · rintro hsuffix ⟨value, hunseal⟩
    obtain ⟨payload, rest, hsplit, -⟩ := extends_of_unsealValue env hunseal
    obtain ⟨sealed, hissued, rfl⟩ := hunforged payload rest hsplit
    rcases extends_of_splitOn hsplit with heq | ⟨suffix, heq⟩
    · exact ⟨sealed, hissued, heq⟩
    · exact absurd heq (hsuffix sealed suffix hissued)

/-- Sealed cookies come back from any header, and what opens is a sealed value
exactly where none is followed by another dot. -/
theorem sealedCookies_iff
    (hname : name = oauthStateCookieName ∨ name = sessionCookieName)
    (value : Json) (options : BffCookieOptions)
    {before after : List HeaderCookie}
    (hothers : ∀ cookie ∈ before ++ after,
      cookie.WellFormed ∧ cookie.name ≠ name)
    (hunforged : Unforged env issued presented) :
    (unsealValue env (cookie (parseCookies (some (headerWith before after
          (serializeCookie name (sealValue env value) options)))) name) =
        parse value.render ∧
      ((∃ opened, unsealValue env (some presented) = some opened) →
        ∃ sealed, issued sealed ∧ presented = sealValue env sealed)) ↔
      ∀ sealed suffix, issued sealed →
        presented ≠ sealValue env sealed ++ '.' :: suffix := by
  rw [cookie_headerWith _ options (isToken_cookieName hname) hothers,
    unsealValue_of_extends env (Or.inl rfl), parse_render,
    opensSealed_iff hunforged]
  exact and_iff_right rfl

end Sealed

end BffSession

namespace BffCookiesWitness

open BffSession BffWitness

/-- The session of the visit is the only value that was sealed. -/
def issued (value : Json) : Prop := value = session.toJson

def options : BffCookieOptions :=
  { secure := true, sameSite := .lax, httpOnly := true, path := none,
    maxAge := some 3600 }

def theme : HeaderCookie := ⟨"theme".toList, "dark=1".toList⟩

theorem theme_other :
    theme.WellFormed ∧ theme.name ≠ sessionCookieName := by
  have htoken : (theme.name.all isTokenChar) = true := by decide
  have hvalue : (theme.value.all fun c => !isWhitespace c && c != ';') =
      true := by decide
  refine ⟨⟨⟨by decide, List.all_eq_true.mp htoken⟩, ?_⟩, by decide⟩
  intro c hc
  simpa using List.all_eq_true.mp hvalue c hc

/-- The session cookie of the visit with a part behind it. -/
def extended : List Char := sealedSession ++ '.' :: "x".toList

theorem unforged_sealedSession : Unforged env issued sealedSession := by
  intro payload rest hsplit
  rw [sealedSession, BffApp.split_sealed] at hsplit
  exact ⟨_, rfl, (List.cons.inj hsplit).1.symm⟩

theorem unforged_extended : Unforged env issued extended := by
  intro payload rest hsplit
  rw [extended, sealedSession, BffApp.split_suffix] at hsplit
  exact ⟨_, rfl, (List.cons.inj hsplit).1.symm⟩

theorem sealedCookies_session :
    unsealValue env (cookie (parseCookies (some (headerWith [theme] [theme]
        (serializeCookie sessionCookieName sealedSession options))))
          sessionCookieName) = parse session.toJson.render ∧
      ((∃ opened, unsealValue env (some sealedSession) = some opened) →
        ∃ sealed, issued sealed ∧ sealedSession = sealValue env sealed) := by
  have hothers : ∀ cookie ∈ [theme] ++ [theme],
      cookie.WellFormed ∧ cookie.name ≠ sessionCookieName := by
    intro cookie hcookie
    simp only [List.cons_append, List.nil_append, List.mem_cons,
      List.not_mem_nil, or_false, or_self] at hcookie
    rw [hcookie]
    exact theme_other
  refine (sealedCookies_iff (Or.inr rfl) session.toJson options hothers
    unforged_sealedSession).mpr ?_
  intro sealed suffix _
  exact BffApp.sealed_ne_suffix session.toJson sealed suffix

theorem not_sealedCookies :
    ¬ ∀ (env : BffEnv) (issued : Json → Prop) (presented : List Char),
      Unforged env issued presented →
        (∃ opened, unsealValue env (some presented) = some opened) →
          ∃ sealed, issued sealed ∧ presented = sealValue env sealed := by
  intro hclaim
  obtain ⟨sealed, -, heq⟩ := hclaim env issued extended unforged_extended
    ⟨_, unsealValue_of_extends env (Or.inr ⟨_, rfl⟩)⟩
  exact BffApp.sealed_ne_suffix sealed session.toJson _ heq.symm

end BffCookiesWitness

end IdProvider
