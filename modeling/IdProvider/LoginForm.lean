/-
The form of the login page: what its fields keep of what is typed into them is
what the server reads.
-/
import IdProvider.BotRisk
import IdProvider.HtmlForms
import IdProvider.LoginPage
import IdProvider.SearchParams

namespace IdProvider

open HtmlTokens HtmlForms LoginPage SearchParams

/-! ## The server's side -/

/-- `new URLSearchParams(text)`, which drops a question mark. -/
def OidcInteractions.readForm (body : List UInt8) : List FormUrlencoded.Pair :=
  match Utf8.decode body with
  | '?' :: text => FormUrlencoded.parse (Utf8.encode text)
  | text => FormUrlencoded.parse (Utf8.encode text)

def interactionForm (form : List FormUrlencoded.Pair) : InteractionForm where
  email := getText "email" form
  password := getText "password" form
  mfaCode := getText "mfaCode" form
  mfaRecoveryCode := getText "mfaRecoveryCode" form

/-- A written form is read as it was. -/
theorem OidcInteractions.readForm_serialize (pairs : List FormUrlencoded.Pair) :
    OidcInteractions.readForm (FormUrlencoded.serialize pairs) = pairs := by
  have hascii := FormUrlencoded.serialize_ascii pairs
  have hbytes := Utf8.encode_decode_ascii hascii
  unfold OidcInteractions.readForm
  split
  case h_1 text htext =>
    refine absurd ?_ (FormUrlencoded.serialize_head pairs)
    rw [← hbytes, htext]
    rfl
  case h_2 => rw [hbytes, FormUrlencoded.parse_serialize]

/-! ## The browser's side -/

namespace LoginPage

variable (input : LoginPage) (typed : String → String)

/-- What is typed into a field, by the name of the field. -/
def typedChars (name : List Char) : List Char :=
  (typed (String.ofList name)).toList

def beforeForm : List Token :=
  headTokens ++ text style ++ beforeNameTokens ++
    text (shown (some input.clientName)) ++ afterNameTokens ++
    (if given input.error then errorTokens input.error else []) ++ str "\n    "

def formFields : List Token :=
  hintTokens input.loginHint ++ passwordTokens ++
    (if input.mfaRequired then mfaTokens else []) ++ buttonTokens

theorem form_eq : "form".toList = form := by
  rw [form]
  rw [String.toList_ofList]

theorem tokens_eq : tokens input =
    beforeForm input ++
      .startTag (formTagOf ("/interaction/".toList ++ held (some input.uid))) ::
      (formFields input ++ .endTag form :: endTokens) := by
  simp only [tokens, beforeForm, formFields, formTokens, formTagOf,
    footTokens, closes, form_eq, List.append_assoc, List.cons_append,
    List.nil_append]

theorem beforeForm_any : (beforeForm input).any startsForm = false := by
  have hfixed : headTokens.any startsForm = false ∧
      beforeNameTokens.any startsForm = false ∧
      afterNameTokens.any startsForm = false ∧
      (opens "div" [("class", "error")]).any startsForm = false ∧
      (closes "div").any startsForm = false := by
    simp only [headTokens, beforeNameTokens, afterNameTokens, str, opens,
      closes, List.map_cons, List.map_nil]
    repeat rw [String.toList_ofList]
    decide +kernel
  obtain ⟨hhead, hname, hafter, hopen, hclose⟩ := hfixed
  have herror : (if given input.error then errorTokens input.error
      else []).any startsForm = false := by
    split
    · simp only [errorTokens, List.any_append, hopen, hclose,
        startsForm_text, Bool.or_false]
    · rfl
  simp only [beforeForm, str, List.any_append, hhead, hname, hafter, herror,
    startsForm_text, Bool.or_false]

theorem formFields_any : (formFields input).any endsForm = false := by
  have hfixed : promptTokens.any endsForm = false ∧
      passwordTokens.any endsForm = false ∧
      mfaTokens.any endsForm = false ∧
      buttonTokens.any endsForm = false := by
    simp only [promptTokens, passwordTokens, mfaTokens, buttonTokens, str,
      opens, closes, List.map_cons, List.map_nil]
    repeat rw [String.toList_ofList]
    decide +kernel
  obtain ⟨hprompt, hpassword, hmfa, hbutton⟩ := hfixed
  have hoptional : (if input.mfaRequired then mfaTokens
      else []).any endsForm = false := by
    split
    · exact hmfa
    · rfl
  simp only [formFields, hintTokens, List.any_append, List.any_cons,
    List.any_nil, hprompt, hpassword, hbutton, hoptional, endsForm,
    Bool.or_false]

/-- What a field of the type and name sends. -/
def sentEntry (type name : String) : FormUrlencoded.Pair :=
  (name.toList, crlf (sanitized type.toList (typedChars typed name.toList)))

theorem fieldEntry_hint : (hintTokens input.loginHint).filterMap
    (fieldEntry (typedChars typed)) =
      [("prompt".toList, "login".toList),
        sentEntry typed "email" "email"] := by
  simp only [hintTokens, promptTokens, sentEntry, str, opens, closes,
    List.map_cons, List.map_nil]
  repeat rw [String.toList_ofList]
  rfl

theorem fieldEntry_password :
    passwordTokens.filterMap (fieldEntry (typedChars typed)) =
      [sentEntry typed "password" "password"] := by
  simp only [passwordTokens, sentEntry, str, opens, closes, List.map_cons,
    List.map_nil]
  repeat rw [String.toList_ofList]
  rfl

theorem fieldEntry_mfa :
    mfaTokens.filterMap (fieldEntry (typedChars typed)) =
      [sentEntry typed "" "mfaCode", sentEntry typed "" "mfaRecoveryCode"] := by
  simp only [mfaTokens, sentEntry, str, opens, closes, List.map_cons,
    List.map_nil]
  repeat rw [String.toList_ofList]
  rfl

theorem fieldEntry_button :
    buttonTokens.filterMap (fieldEntry (typedChars typed)) = [] := by
  simp only [buttonTokens, str, opens, closes, List.map_cons, List.map_nil]
  repeat rw [String.toList_ofList]
  rfl

def sentEntries : List FormUrlencoded.Pair :=
  ("prompt".toList, "login".toList) ::
    sentEntry typed "email" "email" :: sentEntry typed "password" "password" ::
    (if input.mfaRequired then
      [sentEntry typed "" "mfaCode", sentEntry typed "" "mfaRecoveryCode"]
    else [])

theorem fieldEntry_fields :
    (formFields input).filterMap (fieldEntry (typedChars typed)) =
      sentEntries input typed := by
  have hmfa : (if input.mfaRequired then mfaTokens else []).filterMap
      (fieldEntry (typedChars typed)) =
        if input.mfaRequired then
          [sentEntry typed "" "mfaCode", sentEntry typed "" "mfaRecoveryCode"]
        else [] := by
    split
    · exact fieldEntry_mfa typed
    · rfl
  rw [formFields, List.filterMap_append, List.filterMap_append,
    List.filterMap_append, fieldEntry_hint, fieldEntry_password, hmfa,
    fieldEntry_button, List.append_nil]
  rfl

/-- The form that the page has. -/
theorem submission_tokens :
    submission (typedChars typed) (tokens input) =
      some
        { action := "/interaction/".toList ++ held (some input.uid)
          entries := sentEntries input typed } := by
  have hname : (formTagOf ("/interaction/".toList ++
      held (some input.uid))).name = form := form_eq
  have haction : ∀ action, valueOf (formTagOf action)
      ['a', 'c', 't', 'i', 'o', 'n'] = action := by
    intro action
    simp only [formTagOf]
    repeat rw [String.toList_ofList]
    rfl
  rw [tokens_eq, submission_page _ (beforeForm_any input) hname
    (formFields_any input), haction, fieldEntry_fields]

/-- What a field of the type keeps of the text typed into it. -/
def kept (type name : String) : String :=
  String.ofList (sanitized type.toList (typed name).toList)

/-- The form that the server finds: every field of the page with what it
keeps, and the two second factors only where the page asks for them. -/
def keptForm : InteractionForm where
  email := some (kept typed "email" "email")
  password := some (kept typed "password" "password")
  mfaCode := if input.mfaRequired then some (kept typed "" "mfaCode") else none
  mfaRecoveryCode :=
    if input.mfaRequired then some (kept typed "" "mfaRecoveryCode") else none

theorem kept_eq {type name : String} (hline : IsLine (typed name).toList)
    (htrimmed : type = "email" → IsTrimmed (typed name).toList) :
    kept typed type name = typed name := by
  have hemail : type.toList = ['e', 'm', 'a', 'i', 'l'] →
      IsTrimmed (typed name).toList := by
    intro htype
    exact htrimmed (String.toList_injective htype)
  rw [kept, sanitized_eq_self hline hemail, String.ofList_toList]

/-- A field sends a line. -/
theorem sentEntry_eq (type name : String) :
    sentEntry typed type name =
      (name.toList, (kept typed type name).toList) := by
  rw [sentEntry, typedChars, String.ofList_toList,
    crlf_line (isLine_sanitized _ _), kept, String.toList_ofList]

/-- The fields of the form as the server finds them. -/
theorem interactionForm_sentEntries :
    interactionForm (sentEntries input typed) = keptForm input typed := by
  unfold interactionForm sentEntries keptForm
  cases input.mfaRequired <;>
    simp only [sentEntry_eq, getText_cons, getText_nil, String.reduceEq,
      String.ofList_toList, if_true, if_false, Bool.false_eq_true]

/-- Whatever is in the page, and whatever is typed into its form: the page is
the template with the values as texts and attribute values, and the server
reads what the fields keep, which is what was typed but for line breaks and,
around an email address, white space. -/
theorem renderLogin_submission :
    tokenize (renderLogin input) = some (tokens input) ∧
      ∃ submitted, submission (typedChars typed) (tokens input) =
          some submitted ∧
        submitted.action = "/interaction/".toList ++ held (some input.uid) ∧
        interactionForm (OidcInteractions.readForm
            (FormUrlencoded.serialize submitted.entries)) =
          keptForm input typed := by
  refine ⟨tokenize_renderLogin input, _, submission_tokens input typed, rfl, ?_⟩
  dsimp only
  rw [OidcInteractions.readForm_serialize, interactionForm_sentEntries]

end LoginPage

namespace LoginFormWitness

def page : LoginPage where
  uid := "kdv-9"
  clientName := "Tom & Jerry's <script>"
  loginHint := some "\"><script>"
  error := some "MFA is required."
  mfaRequired := true

/-- An email address with a blank before it, and a password that would end a
value or a pair. -/
def typed (name : String) : String :=
  if name = "email" then " a@example.com"
  else if name = "password" then "p&q=\"r\" + 100% "
  else "042042"

theorem kept_email :
    LoginPage.kept typed "email" "email" = "a@example.com" := by
  simp only [LoginPage.kept, typed, if_true]
  repeat rw [String.toList_ofList]
  rfl

theorem kept_other {type name : String} (htype : type ≠ "email")
    (hname : name ≠ "email") : LoginPage.kept typed type name = typed name := by
  apply LoginPage.kept_eq typed _ fun hemail => absurd hemail htype
  rw [typed, if_neg hname]
  split
  · rw [String.toList_ofList]
    decide
  · rw [String.toList_ofList]
    decide

theorem renderLogin_submission_quoted :
    tokenize (renderLogin page) = some (LoginPage.tokens page) ∧
      ∃ submitted, submission (LoginPage.typedChars typed)
          (LoginPage.tokens page) = some submitted ∧
        submitted.action = "/interaction/".toList ++ held (some "kdv-9") ∧
        interactionForm (OidcInteractions.readForm
            (FormUrlencoded.serialize submitted.entries)) =
          { email := some "a@example.com"
            password := some "p&q=\"r\" + 100% "
            mfaCode := some "042042"
            mfaRecoveryCode := some "042042" } := by
  have hread := LoginPage.renderLogin_submission page typed
  rw [LoginPage.keptForm, kept_email, kept_other (by decide) (by decide),
    kept_other (by decide) (by decide), kept_other (by decide) (by decide)]
    at hread
  exact hread

end LoginFormWitness

end IdProvider
