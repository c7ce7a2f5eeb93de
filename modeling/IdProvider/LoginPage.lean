/-
The pages of an OIDC interaction as a browser reads them.
-/
import IdProvider.HtmlTokens
import IdProvider.JsText
import IdProvider.TemplateText

namespace IdProvider

open HtmlTokens

/-! ## The pages -/

/-- `String(value ?? "")`, with the five characters replaced one by one. -/
def htmlEscape (value : Option String) : List Char :=
  let text := (value.getD "").toList
  let text := replaceAllText text ['&'] "&amp;".toList
  let text := replaceAllText text ['<'] "&lt;".toList
  let text := replaceAllText text ['>'] "&gt;".toList
  let text := replaceAllText text ['"'] "&quot;".toList
  replaceAllText text [apostrophe] "&#39;".toList

/-- What the template is filled with; a second factor is asked for when the flag
is set. -/
structure LoginPage where
  uid : String
  clientName : String
  loginHint : Option String
  error : Option String
  mfaRequired : Bool

/-- The lines of a template literal, with their line breaks. -/
def lines (texts : List String) : List Char :=
  ['\n'].intercalate (texts.map String.toList)

namespace LoginPage

/-- The template up to its style sheet. -/
def head : List Char := lines
  ["<!doctype html>",
    "<html lang=\"en\">",
    "<head>",
    "  <meta charset=\"utf-8\" />",
    "  <meta name=\"viewport\" content=\"width=device-width, initial-scale=1\" />",
    "  <title>Sign in</title>",
    "  <style>"]

/-- The style sheet, which the browser reads as raw text. -/
def style : List Char := lines
  ["",
    "    body \x7b font-family: ui-sans-serif, system-ui, sans-serif; margin: 0; background: #f6f7f9; color: #20242a; \x7d",
    "    main \x7b max-width: 360px; margin: 12vh auto; padding: 28px; background: #fff; border: 1px solid #d9dde3; border-radius: 8px; \x7d",
    "    h1 \x7b font-size: 22px; margin: 0 0 8px; \x7d",
    "    p \x7b color: #5d6673; margin: 0 0 20px; \x7d",
    "    label \x7b display: block; font-size: 13px; margin: 14px 0 6px; \x7d",
    "    input \x7b width: 100%; box-sizing: border-box; padding: 10px 12px; border: 1px solid #b8c0cc; border-radius: 6px; font-size: 15px; \x7d",
    "    button \x7b width: 100%; margin-top: 18px; padding: 11px 14px; border: 0; border-radius: 6px; background: #1f6feb; color: #fff; font-weight: 700; \x7d",
    "    .error \x7b background: #fff1f1; color: #a4161a; border: 1px solid #ffc9c9; padding: 10px; border-radius: 6px; margin-bottom: 12px; \x7d",
    "  "]

/-- From the style sheet to the name of the client. -/
def beforeName : List Char := lines
  ["</style>",
    "</head>",
    "<body>",
    "  <main>",
    "    <h1>Sign in</h1>",
    "    <p>"]

/-- From the name of the client to the error. -/
def afterName : List Char := lines
  [" wants to authenticate your account.</p>",
    "    "]

/-- From the error to the id of the interaction, in the action of the form. -/
def beforeUid : List Char := lines
  ["",
    "    <form method=\"post\" action=\"/interaction/"]

/-- From the id to the value of the email field. -/
def beforeHint : List Char := "\">".toList ++ lines
  ["",
    "      <input type=\"hidden\" name=\"prompt\" value=\"login\" />",
    "      <label for=\"email\">Email</label>",
    "      <input id=\"email\" name=\"email\" type=\"email\" autocomplete=\"username\" required value=\""]

/-- From the value of the email field to the second factor. -/
def afterHint : List Char := "\" />".toList ++ lines
  ["",
    "      <label for=\"password\">Password</label>",
    "      <input id=\"password\" name=\"password\" type=\"password\" autocomplete=\"current-password\" required />",
    "      "]

/-- The fields of the second factor. -/
def mfaFields : List Char := lines
  ["<label for=\"mfaCode\">MFA code</label>",
    "      <input id=\"mfaCode\" name=\"mfaCode\" autocomplete=\"one-time-code\" />",
    "      <label for=\"mfaRecoveryCode\">Recovery code</label>",
    "      <input id=\"mfaRecoveryCode\" name=\"mfaRecoveryCode\" />"]

/-- The button and the end of the page. -/
def foot : List Char := lines
  ["",
    "      <button type=\"submit\">Continue</button>",
    "    </form>",
    "  </main>",
    "</body>",
    "</html>"]

/-- The template literal; every value is escaped where it is put in. -/
def render (input : LoginPage) : List Char :=
  head ++ style ++ beforeName ++ htmlEscape input.clientName ++ afterName ++
    (if given input.error then
      "<div class=\"error\">".toList ++ htmlEscape input.error ++
        "</div>".toList
    else []) ++
    beforeUid ++ htmlEscape input.uid ++ beforeHint ++
    htmlEscape input.loginHint ++ afterHint ++
    (if input.mfaRequired then mfaFields else []) ++ foot

end LoginPage

/-- `renderLogin` -/
def renderLogin (input : LoginPage) : List Char := input.render

/-- The page for a prompt that the server does not know, up to its message. -/
def unsupportedStart : List Char := lines
  ["<!doctype html>",
    "<html lang=\"en\"><head><meta charset=\"utf-8\" /><title>Unsupported interaction</title></head>",
    "<body><main><h1>Unsupported interaction</h1><p>"]

/-- `renderUnsupported` -/
def renderUnsupported (message : String) : List Char :=
  unsupportedStart ++ htmlEscape message ++ "</p></main></body></html>".toList

/-! ## What escaping does -/

/-- Replacing one character is a map over the characters. -/
theorem replaceAllText_singleton {mark : Char} {replacement : List Char}
    (hliteral : hasReplacementPattern replacement = false)
    (text : List Char) :
    replaceAllText text [mark] replacement =
      text.flatMap fun c => if c = mark then replacement else [c] := by
  have hfrom : ∀ before, replaceFrom [mark] replacement before 0 text =
      text.flatMap fun c => if c = mark then replacement else [c] := by
    induction text with
    | nil => exact fun _ => rfl
    | cons c text ih =>
        intro before
        rw [replaceFrom, ih, List.flatMap_cons,
          getSubstitution_literal hliteral]
        by_cases hmark : c = mark
        · rw [if_pos (by simp [hmark]), if_pos hmark]
          exact congrArg _ (ih _)
        · rw [if_neg (by simpa using Ne.symm hmark), if_neg hmark]
          rfl
  exact hfrom []

/-- The five replacements, one after another, escape each character by itself:
the ampersand goes first, so no replacement is replaced again. -/
theorem htmlEscape_eq (value : Option String) :
    htmlEscape value = escape (value.getD "").toList := by
  unfold htmlEscape escape
  dsimp only
  rw [replaceAllText_singleton (by decide),
    replaceAllText_singleton (by decide), replaceAllText_singleton (by decide),
    replaceAllText_singleton (by decide), replaceAllText_singleton (by decide),
    List.flatMap_assoc, List.flatMap_assoc, List.flatMap_assoc,
    List.flatMap_assoc]
  congr 1
  funext c
  unfold escapeChar
  split
  case isTrue h => subst h; decide
  split
  case isTrue h => subst h; decide
  split
  case isTrue h => subst h; decide
  split
  case isTrue h => subst h; decide
  split
  case isTrue h => subst h; decide
  case isFalse hamp hlt hgt hquot happ =>
    have hplain : c ≠ apostrophe := happ
    simp only [hlt, hgt, hquot, hplain, if_false, List.flatMap_cons,
      List.flatMap_nil, List.append_nil]

/-! ## What a browser reads -/

section Tokens

/-- The tokens of a text. -/
def str (chars : String) : List Token := text chars.toList

/-- A start tag. -/
def opens (name : String) (attributes : List (String × String)) :
    List Token :=
  [.startTag ⟨name.toList, attributes.map fun pair =>
    (pair.1.toList, pair.2.toList)⟩]

/-- An end tag. -/
def closes (name : String) : List Token := [.endTag name.toList]

/-- A value as a page shows it. -/
def shown (value : Option String) : List Char :=
  normalizeNewlines (value.getD "").toList

/-- A value as an attribute holds it. -/
def held (value : Option String) : List Char := (shown value).map valueChar

namespace LoginPage

/-- What a browser reads of `head`; the following definitions are about the
other parts of the template. -/
def headTokens : List Token :=
  [.doctype "html".toList] ++ str "\n" ++ opens "html" [("lang", "en")] ++
    str "\n" ++ opens "head" [] ++ str "\n  " ++
    opens "meta" [("charset", "utf-8")] ++ str "\n  " ++
    opens "meta" [("name", "viewport"),
      ("content", "width=device-width, initial-scale=1")] ++ str "\n  " ++
    opens "title" [] ++ str "Sign in" ++ closes "title" ++ str "\n  " ++
    opens "style" []

def beforeNameTokens : List Token :=
  closes "style" ++ str "\n" ++ closes "head" ++ str "\n" ++
    opens "body" [] ++ str "\n  " ++ opens "main" [] ++ str "\n    " ++
    opens "h1" [] ++ str "Sign in" ++ closes "h1" ++ str "\n    " ++
    opens "p" []

def afterNameTokens : List Token :=
  str " wants to authenticate your account." ++ closes "p" ++ str "\n    "

/-- The error is shown in an element of its own, if there is one. -/
def errorTokens (error : Option String) : List Token :=
  opens "div" [("class", "error")] ++ text (shown error) ++ closes "div"

/-- The form posts to the interaction of the id. -/
def formTokens (uid : String) : List Token :=
  str "\n    " ++
    [.startTag ⟨"form".toList, [("method".toList, "post".toList),
      ("action".toList, "/interaction/".toList ++ held (some uid))]⟩]

def promptTokens : List Token :=
  str "\n      " ++
    opens "input" [("type", "hidden"), ("name", "prompt"),
      ("value", "login")] ++ str "\n      " ++
    opens "label" [("for", "email")] ++ str "Email" ++ closes "label" ++
    str "\n      "

/-- The email field, which holds the login hint. -/
def hintTokens (loginHint : Option String) : List Token :=
  promptTokens ++
    [.startTag ⟨"input".toList,
      [("id".toList, "email".toList), ("name".toList, "email".toList),
        ("type".toList, "email".toList),
        ("autocomplete".toList, "username".toList), ("required".toList, []),
        ("value".toList, held loginHint)]⟩]

def passwordTokens : List Token :=
  str "\n      " ++ opens "label" [("for", "password")] ++ str "Password" ++
    closes "label" ++ str "\n      " ++
    opens "input" [("id", "password"), ("name", "password"),
      ("type", "password"), ("autocomplete", "current-password"),
      ("required", "")] ++ str "\n      "

def mfaTokens : List Token :=
  opens "label" [("for", "mfaCode")] ++ str "MFA code" ++ closes "label" ++
    str "\n      " ++
    opens "input" [("id", "mfaCode"), ("name", "mfaCode"),
      ("autocomplete", "one-time-code")] ++ str "\n      " ++
    opens "label" [("for", "mfaRecoveryCode")] ++ str "Recovery code" ++
    closes "label" ++ str "\n      " ++
    opens "input" [("id", "mfaRecoveryCode"), ("name", "mfaRecoveryCode")]

def buttonTokens : List Token :=
  str "\n      " ++ opens "button" [("type", "submit")] ++ str "Continue" ++
    closes "button" ++ str "\n    "

def endTokens : List Token :=
  str "\n  " ++ closes "main" ++ str "\n" ++ closes "body" ++ str "\n" ++
    closes "html"

/-- The button and the end tags of the form and the page. -/
def footTokens : List Token := buttonTokens ++ closes "form" ++ endTokens

/-- The page, with the values where they belong. -/
def tokens (input : LoginPage) : List Token :=
  headTokens ++ text style ++ beforeNameTokens ++
    text (shown (some input.clientName)) ++ afterNameTokens ++
    (if given input.error then errorTokens input.error else []) ++
    formTokens input.uid ++ hintTokens input.loginHint ++ passwordTokens ++
    (if input.mfaRequired then mfaTokens else []) ++ footTokens

end LoginPage

end Tokens

/-! ## Reading the page -/

open LoginPage

section Texts

-- The texts of the template are long for a definitional unfolding.
set_option maxRecDepth 4000

/-- The head ends within the style element, which is raw text. -/
theorem run_head :
    run .data head = some (headTokens, .rawText "style".toList) := by
  simp only [head, lines, headTokens, str, opens, closes, List.map_cons,
    List.map_nil]
  repeat rw [String.toList_ofList]
  rfl

/-- Nothing in the style sheet ends its element. -/
theorem run_style : run (.rawText "style".toList) style =
    some (text style, .rawText "style".toList) := by
  apply run_rawText
  simp only [style, lines, List.map_cons, List.map_nil]
  repeat rw [String.toList_ofList]
  rfl

/-- The style element ends, and the name stands in a text. -/
theorem run_beforeName : run (.rawText "style".toList) beforeName =
    some (beforeNameTokens, .data) := by
  simp only [beforeName, lines, beforeNameTokens, str, opens, closes,
    List.map_cons, List.map_nil]
  repeat rw [String.toList_ofList]
  rfl

theorem run_afterName :
    run .data afterName = some (afterNameTokens, .data) := by
  simp only [afterName, lines, afterNameTokens, str, closes, List.map_cons,
    List.map_nil]
  repeat rw [String.toList_ofList]
  rfl

theorem run_errorStart : run .data "<div class=\"error\">".toList =
    some (opens "div" [("class", "error")], .data) := by
  simp only [opens, List.map_cons, List.map_nil]
  repeat rw [String.toList_ofList]
  rfl

theorem run_errorEnd :
    run .data "</div>".toList = some (closes "div", .data) := by
  simp only [closes]
  repeat rw [String.toList_ofList]
  rfl

/-- The form has begun, up to the value of its action. -/
def formTag : Tag := ⟨"form".toList, [("method".toList, "post".toList)]⟩

/-- The tag of the form. -/
def formTagOf (action : List Char) : Tag :=
  ⟨"form".toList, [("method".toList, "post".toList),
    ("action".toList, action)]⟩

/-- The action is the second attribute of the form. -/
theorem formTag_add (action : List Char) :
    formTag.add "action".toList action = formTagOf action := by
  have hnew : (formTag.attributes.any fun other =>
      other.1 == "action".toList) = false := by
    simp only [formTag]
    repeat rw [String.toList_ofList]
    decide
  rw [Tag.add, hnew]
  rfl

/-- The id stands in the quoted value of the action. -/
theorem run_beforeUid : run .data beforeUid =
    some (str "\n    ", .attributeValue false formTag "action".toList
      "/interaction/".toList) := by
  simp only [beforeUid, lines, formTag, str, List.map_cons, List.map_nil]
  repeat rw [String.toList_ofList]
  rfl

/-- The input of the email, up to its value. -/
def emailTag : Tag :=
  ⟨"input".toList,
    [("id".toList, "email".toList), ("name".toList, "email".toList),
      ("type".toList, "email".toList),
      ("autocomplete".toList, "username".toList), ("required".toList, [])]⟩

/-- The login hint is the last attribute of the email field. -/
theorem emailTag_add (value : List Char) :
    emailTag.add "value".toList value =
      ⟨"input".toList, emailTag.attributes ++ [("value".toList, value)]⟩ := by
  have hnew : (emailTag.attributes.any fun other =>
      other.1 == "value".toList) = false := by
    simp only [emailTag]
    repeat rw [String.toList_ofList]
    decide
  rw [Tag.add, hnew]
  rfl

/-- The value of the action ends with the quote, whatever it was, and the hint
stands in the quoted value of the email field. -/
theorem run_beforeHint (action : List Char) :
    run (.attributeValue false formTag "action".toList action) beforeHint =
      some (.startTag (formTagOf action) :: promptTokens,
        .attributeValue false emailTag "value".toList []) := by
  have hclose : run (.attributeValue false formTag "action".toList action)
      "\">".toList = some ([.startTag (formTagOf action)], .data) := by
    rw [String.toList_ofList]
    refine run_value_close (formTag_add action) ?_
    simp only [formTagOf]
    repeat rw [String.toList_ofList]
    rfl
  refine run_append hclose ?_
  simp only [lines, emailTag, str, opens, closes, List.map_cons, List.map_nil]
  repeat rw [String.toList_ofList]
  rfl

/-- The tag of the email field ends after its value. -/
theorem run_afterHint (hint : List Char) :
    run (.attributeValue false emailTag "value".toList hint) afterHint =
      some (.startTag ⟨"input".toList,
        emailTag.attributes ++ [("value".toList, hint)]⟩ :: passwordTokens,
        .data) := by
  have hclose : run (.attributeValue false emailTag "value".toList hint)
      "\" />".toList = some ([.startTag ⟨"input".toList,
        emailTag.attributes ++ [("value".toList, hint)]⟩], .data) := by
    rw [String.toList_ofList]
    refine run_value_selfClose (emailTag_add hint) ?_
    simp only [emailTag]
    repeat rw [String.toList_ofList]
    rfl
  refine run_append hclose ?_
  simp only [lines, str, opens, closes, List.map_cons, List.map_nil]
  repeat rw [String.toList_ofList]
  rfl

theorem run_mfaFields : run .data mfaFields = some (mfaTokens, .data) := by
  simp only [mfaFields, lines, mfaTokens, str, opens, closes, List.map_cons,
    List.map_nil]
  repeat rw [String.toList_ofList]
  rfl

theorem run_foot : run .data foot = some (footTokens, .data) := by
  simp only [foot, lines, footTokens, buttonTokens, endTokens, str, opens,
    closes, List.map_cons, List.map_nil]
  repeat rw [String.toList_ofList]
  rfl

end Texts

namespace LoginPage

variable (input : LoginPage)

/-- The error as the template puts it in: nothing where there is none. -/
def errorPieces : List Piece :=
  if given input.error then
    [.fixed "<div class=\"error\">".toList,
      .value (input.error.getD "").toList, .fixed "</div>".toList]
  else []

/-- The second factor, if it is asked for. -/
def mfaPieces : List Piece :=
  if input.mfaRequired then [.fixed mfaFields, .fixed foot] else [.fixed foot]

/-- The form, from its action to its end. -/
def formPieces : List Piece :=
  .fixed beforeUid :: .value input.uid.toList :: .fixed beforeHint ::
    .value (input.loginHint.getD "").toList :: .fixed afterHint ::
    mfaPieces input

/-- The page as fixed texts and values. -/
def pieces : List Piece :=
  .fixed head :: .fixed style :: .fixed beforeName ::
    .value input.clientName.toList :: .fixed afterName ::
    (errorPieces input ++ formPieces input)

/-- Rendering puts the values, each escaped, between the fixed texts. -/
theorem render_eq : renderLogin input = HtmlTokens.render (pieces input) := by
  unfold renderLogin LoginPage.render pieces formPieces errorPieces mfaPieces
  rw [htmlEscape_eq, htmlEscape_eq, htmlEscape_eq, htmlEscape_eq]
  cases given input.error <;> cases input.mfaRequired <;>
    simp [HtmlTokens.render, Piece.render]

/-- The texts of the template have no carriage returns. -/
theorem return_not_mem : ∀ chars ∈ [head, style, beforeName, afterName,
    "<div class=\"error\">".toList, "</div>".toList, beforeUid, beforeHint,
    afterHint, mfaFields, foot], '\r' ∉ chars := by
  simp only [head, style, beforeName, afterName, beforeUid, beforeHint,
    afterHint, mfaFields, foot, lines, List.map_cons, List.map_nil]
  repeat rw [String.toList_ofList]
  decide +kernel

/-- No text after a value begins with a line break. -/
theorem beginsInLine_texts : ∀ chars ∈ [afterName, "</div>".toList,
    beforeHint, afterHint], beginsInLine chars = true := by
  simp only [afterName, beforeHint, afterHint, lines, List.map_cons,
    List.map_nil]
  repeat rw [String.toList_ofList]
  decide +kernel

/-- The pieces are such that no value runs into the text after it. -/
theorem fits_pieces : Fits (pieces input) := by
  have hplain := return_not_mem
  have hbegins := beginsInLine_texts
  simp only [List.forall_mem_cons] at hplain hbegins
  obtain ⟨hhead, hstyle, hbeforeName, hafterName, herrorStart, herrorEnd,
    hbeforeUid, hbeforeHint, hafterHint, hmfaFields, hfoot, -⟩ := hplain
  obtain ⟨hname, herror, huid, hhint, -⟩ := hbegins
  have hmfa : Fits (mfaPieces input) := by
    unfold mfaPieces
    split
    · exact ⟨hmfaFields, hfoot, trivial⟩
    · exact ⟨hfoot, trivial⟩
  have hform : Fits (formPieces input) :=
    ⟨hbeforeUid, fits_value huid ⟨hbeforeHint, fits_value hhint
      ⟨hafterHint, hmfa⟩⟩⟩
  have hrest : Fits (errorPieces input ++ formPieces input) := by
    unfold errorPieces
    split
    · exact ⟨herrorStart, fits_value herror ⟨herrorEnd, hform⟩⟩
    · exact hform
  exact ⟨hhead, hstyle, hbeforeName, fits_value hname ⟨hafterName, hrest⟩⟩

theorem scan_mfaPieces : scan .data (mfaPieces input) =
    some ((if input.mfaRequired then mfaTokens else []) ++ footTokens,
      .data) := by
  have hfoot : scan .data [.fixed foot] = some (footTokens ++ [], .data) :=
    scan_fixed run_foot rfl
  rw [List.append_nil] at hfoot
  unfold mfaPieces
  cases input.mfaRequired with
  | true => exact scan_fixed run_mfaFields hfoot
  | false => exact hfoot

/-- The form is read from its action on, where the email field holds the
hint. -/
theorem scan_formPieces : scan .data (formPieces input) =
    some (formTokens input.uid ++ hintTokens input.loginHint ++
      passwordTokens ++ (if input.mfaRequired then mfaTokens else []) ++
      footTokens, .data) := by
  refine (scan_fixed run_beforeUid (scan_value (scan_fixed (run_beforeHint _)
    (scan_value (scan_fixed (run_afterHint _)
      (scan_mfaPieces input)))))).trans ?_
  simp only [formTokens, formTagOf, hintTokens, held, shown, emailTag,
    Option.getD_some, List.append_assoc, List.cons_append, List.nil_append]

/-- The whole page is read piece by piece. -/
theorem scan_pieces :
    scan .data (pieces input) = some (tokens input, .data) := by
  have hstart : ∀ {others more},
      scan .data others = some (more, .data) →
      scan .data (.fixed head :: .fixed style :: .fixed beforeName ::
        .value input.clientName.toList :: .fixed afterName :: others) =
        some (headTokens ++ (text style ++ (beforeNameTokens ++
          (text (normalizeNewlines input.clientName.toList) ++
            (afterNameTokens ++ more)))), .data) := fun hrest =>
    scan_fixed run_head (scan_fixed run_style (scan_fixed run_beforeName
      (scan_text (scan_fixed run_afterName hrest))))
  unfold pieces errorPieces tokens
  cases given input.error with
  | true =>
      refine (hstart (scan_fixed run_errorStart (scan_text
        (scan_fixed run_errorEnd (scan_formPieces input))))).trans ?_
      simp only [if_true, errorTokens, shown, Option.getD_some,
        List.append_assoc]
  | false =>
      refine (hstart (scan_formPieces input)).trans ?_
      simp only [Bool.false_eq_true, if_false, shown, Option.getD_some,
        List.append_assoc, List.nil_append]

/-- A browser reads the page of the template, whatever the values are. -/
theorem tokenize_renderLogin :
    tokenize (renderLogin input) = some (tokens input) := by
  rw [render_eq]
  exact tokenize_render (fits_pieces input) (scan_pieces input)

end LoginPage

/-! ## The other page -/

def unsupportedStartTokens : List Token :=
  [.doctype "html".toList] ++ str "\n" ++ opens "html" [("lang", "en")] ++
    opens "head" [] ++ opens "meta" [("charset", "utf-8")] ++
    opens "title" [] ++ str "Unsupported interaction" ++ closes "title" ++
    closes "head" ++ str "\n" ++ opens "body" [] ++ opens "main" [] ++
    opens "h1" [] ++ str "Unsupported interaction" ++ closes "h1" ++
    opens "p" []

def unsupportedEndTokens : List Token :=
  closes "p" ++ closes "main" ++ closes "body" ++ closes "html"

set_option maxRecDepth 4000 in
theorem run_unsupportedStart :
    run .data unsupportedStart = some (unsupportedStartTokens, .data) := by
  simp only [unsupportedStart, lines, unsupportedStartTokens, str, opens,
    closes, List.map_cons, List.map_nil]
  repeat rw [String.toList_ofList]
  rfl

theorem run_unsupportedEnd : run .data "</p></main></body></html>".toList =
    some (unsupportedEndTokens, .data) := by
  simp only [unsupportedEndTokens, closes]
  repeat rw [String.toList_ofList]
  rfl

/-- The other page shows its message as a text, whatever characters it has. -/
theorem tokenize_renderUnsupported (message : String) :
    tokenize (renderUnsupported message) =
      some (unsupportedStartTokens ++ (text (shown (some message)) ++
        unsupportedEndTokens)) := by
  have hpieces : renderUnsupported message = HtmlTokens.render
      [.fixed unsupportedStart, .value message.toList,
        .fixed "</p></main></body></html>".toList] := by
    rw [renderUnsupported, htmlEscape_eq, List.append_assoc]
    exact congrArg _ (congrArg _ (List.append_nil _).symm)
  have hplain : '\r' ∉ unsupportedStart ∧
      '\r' ∉ "</p></main></body></html>".toList ∧
      beginsInLine "</p></main></body></html>".toList = true := by
    simp only [unsupportedStart, lines, List.map_cons, List.map_nil]
    repeat rw [String.toList_ofList]
    decide +kernel
  obtain ⟨hstart, hend, hbegins⟩ := hplain
  have hscanEnd : scan .data [.fixed "</p></main></body></html>".toList] =
      some (unsupportedEndTokens ++ [], .data) :=
    scan_fixed run_unsupportedEnd rfl
  rw [List.append_nil] at hscanEnd
  rw [hpieces]
  exact tokenize_render ⟨hstart, fits_value hbegins ⟨hend, trivial⟩⟩
    (scan_fixed run_unsupportedStart (scan_text hscanEnd))

end IdProvider
