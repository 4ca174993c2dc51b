/-
The custom properties of a page: `map-tokens.ts`, and what `wcag-contrast.ts` reads of a
page.

The token files are a parameter, as they are parsed. A number is its text, and what is
reckoned with an angle is a parameter.
-/
import Autopilot.PatternComponents
import Autopilot.Lib.Record
import Autopilot.Lib.Search

set_option autoImplicit false

namespace Autopilot.TokenCss

open PatternComponents

/-! ## Token files -/

/-- The characters of a number's text, `Infinity` included. -/
def isNumberUnit (c : UInt16) : Bool :=
  isLetter c || isDigitUnit c || c = 43 || c = 45 || c = 46

/-- A number, as `String` prints it. -/
structure NumberText where
  text : JsString
  nonempty : text ≠ []
  units : ∀ c ∈ text, isNumberUnit c

inductive TokenPrimitive where
  | string (value : JsString)
  | number (finite : Bool) (text : NumberText)
  | boolean (value : Bool)

/-- `String(value)`. -/
def TokenPrimitive.text : TokenPrimitive → JsString
  | string value => value
  | number _ text => text.text
  | boolean value => if value then js "true" else js "false"

/-- A value of a token file. What is neither a primitive nor a record counts for nothing. -/
inductive TokenTree where
  | primitive (value : TokenPrimitive)
  | record (entries : List (JsString × TokenTree))
  | other

mutual

/-- `flattenTokens`, with the keys above. -/
def flattenToken (parentKeys : List JsString) : TokenTree → List (List JsString × TokenPrimitive)
  | .primitive value => [(parentKeys, value)]
  | .record entries => flattenTokens parentKeys entries
  | .other => []

def flattenTokens (parentKeys : List JsString) :
    List (JsString × TokenTree) → List (List JsString × TokenPrimitive)
  | [] => []
  | (key, value) :: rest =>
    flattenToken (parentKeys ++ [key]) value ++ flattenTokens parentKeys rest

end

/-- A token file: its name without `.json`, and its `tokens`. -/
structure TokenFile where
  name : JsString
  tokens : List (JsString × TokenTree)

/-- What is reckoned with angles. -/
structure AngleNumbers where
  /-- A number from -24 to 24, as `formatCssNumber` prints it. -/
  inRange : JsString → Option NumberText
  /-- The negative number, as `formatCssNumber` prints it. -/
  negated : JsString → NumberText

/-- A record, by its entries in their order. -/
def recordOf {α : Type} (entries : List (JsString × α)) : Record JsString α :=
  entries.foldl (fun record entry => record.set entry.1 entry.2) .empty

/-- `{ ...first, ...second }`. -/
def spread {α : Type} (first second : Record JsString α) : Record JsString α :=
  second.entries.foldl (fun record entry => record.set entry.1 entry.2) first

def joinedBy (separator : JsString) (values : List JsString) : JsString :=
  (values.intersperse separator).flatten

def tokenPrefixByFile : List (JsString × JsString) :=
  [(js "color", js "color"), (js "typography", js "type"), (js "spacing", js "space"),
    (js "radius", js "radius"), (js "shadow", js "shadow"), (js "motion", js "motion"),
    (js "style", js "style")]

def tokenFileOrder : List JsString := tokenPrefixByFile.map (·.1)

/-- `compareTokenFiles` does not put the first name behind the second. -/
def tokenFileLe (left right : JsString) : Bool :=
  if left ∈ tokenFileOrder ∨ right ∈ tokenFileOrder then
    right ∉ tokenFileOrder ||
      (left ∈ tokenFileOrder && tokenFileOrder.idxOf left ≤ tokenFileOrder.idxOf right)
  else ¬right < left

/-! ## Names and values -/

section names

variable (toLowerCase : JsString → JsString)

def isUpper (c : UInt16) : Bool := 65 ≤ c && c ≤ 90

/-- `replace(/([a-z0-9])([A-Z])/g, "$1-$2")`. -/
def breakWords : JsString → JsString
  | first :: second :: rest =>
    if ((97 ≤ first && first ≤ 122) || isDigitUnit first) && isUpper second then
      first :: 45 :: breakWords (second :: rest)
    else first :: breakWords (second :: rest)
  | rest => rest

def toKebabCase (value : JsString) : JsString :=
  toLowerCase ((breakWords value).map fun c => if c = 95 then 45 else c)

def cssCustomPropertyName (tokenPrefix rawTokenKey : JsString) : JsString :=
  let kebabTokenKey := toKebabCase toLowerCase rawTokenKey
  let dedupedKey :=
    if tokenPrefix ++ js "-" <+: kebabTokenKey then kebabTokenKey.drop (tokenPrefix.length + 1)
    else kebabTokenKey
  js "--" ++ tokenPrefix ++ js "-" ++ dedupedKey

end names

section values

/-- A text occurs in another, in any case of its ASCII letters. -/
def containsLower (part text : JsString) : Bool :=
  (asciiLower text).tails.any fun tail => part <+: tail

/-- `word\s*` and a character, in any case. -/
def containsWordThen (word : JsString) (c : UInt16) (text : JsString) : Bool :=
  (asciiLower text).tails.any fun tail =>
    word <+: tail && ((tail.drop word.length).dropWhile isWhitespace).head? = some c

/-- `[A-Za-z0-9_]`. -/
def isWordUnit (c : UInt16) : Bool := isLetter c || isDigitUnit c || c = 95

/-- `@import\b`. -/
def containsImport (text : JsString) : Bool :=
  (asciiLower text).tails.any fun tail =>
    js "@import" <+: tail && !((tail.drop 7).head?.any isWordUnit)

/-- `[a-z0-9-]`, in any case. -/
def isNameUnit (c : UInt16) : Bool := isLetter c || isDigitUnit c || c = 45

def allowedCssValueFunctions : List JsString :=
  [js "rgb", js "rgba", js "hsl", js "hsla", js "cubic-bezier"]

/-- `/\b([a-z][a-z0-9-]*)\s*\(/gi` finds no function but the allowed ones. The flag says
whether the character before is a word character. -/
def functionsAllowed : ℕ → Bool → JsString → Bool
  | 0, _, _ => true
  | _ + 1, _, [] => true
  | fuel + 1, afterWord, c :: rest =>
    let name := (c :: rest).takeWhile isNameUnit
    let behind := ((c :: rest).drop name.length).dropWhile isWhitespace
    if isLetter c && !afterWord && behind.head? = some 40 then
      asciiLower name ∈ allowedCssValueFunctions && functionsAllowed fuel false (behind.drop 1)
    else functionsAllowed fuel (isWordUnit c) rest

/-- `[<>{};\\]`. -/
def isForbidden (c : UInt16) : Bool :=
  c = 60 || c = 62 || c = 123 || c = 125 || c = 59 || c = 92

/-- `[a-zA-Z0-9\s#%.,()/"'-]`. -/
def isValueUnit (c : UInt16) : Bool :=
  isLetter c || isDigitUnit c || isWhitespace c || c = 35 || c = 37 || c = 46 || c = 44 ||
    c = 40 || c = 41 || c = 47 || c = 34 || c = 39 || c = 45

/-- `normalizeCssTokenOverrideValue` of a string. -/
def normalizeCssText (value : JsString) : Option JsString :=
  let trimmed := trim value
  if trimmed = [] ∨ trimmed.length > 240 then none
  else if trimmed.any isForbidden || containsLower (js "/*") trimmed ||
      containsLower (js "*/") trimmed then none
  else if containsWordThen (js "javascript") 58 trimmed ||
      containsWordThen (js "vbscript") 58 trimmed || containsWordThen (js "data") 58 trimmed ||
      containsImport trimmed || containsWordThen (js "expression") 40 trimmed ||
      containsWordThen (js "url") 40 trimmed then none
  else if ¬trimmed.all isValueUnit then none
  else if ¬functionsAllowed trimmed.length false trimmed then none
  else some trimmed

def normalizeCssTokenOverrideValue : TokenPrimitive → Option JsString
  | .number finite text => if finite then some text.text else none
  | .string value => normalizeCssText value
  | .boolean _ => none

def isHexUnit (c : UInt16) : Bool :=
  isDigitUnit c || (97 ≤ c && c ≤ 102) || (65 ≤ c && c ≤ 70)

/-- `/^#(?:[0-9a-fA-F]{3}|[0-9a-fA-F]{6})$/`. -/
def isHexColor : JsString → Bool
  | 35 :: digits => (digits.length = 3 || digits.length = 6) && digits.all isHexUnit
  | _ => false

/-- The number that `/^(-?(?:\d+|\d*\.\d+))deg$/` finds. -/
def degreeNumber (raw : JsString) : Option JsString :=
  if js "deg" <:+ raw then
    let number := raw.take (raw.length - 3)
    let unsigned := if js "-" <+: number then number.drop 1 else number
    let whole := unsigned.takeWhile isDigitUnit
    match unsigned.drop whole.length with
    | [] => if whole = [] then none else some number
    | 46 :: fraction => if fraction ≠ [] ∧ fraction.all isDigitUnit then some number else none
    | _ => none
  else none

variable (angles : AngleNumbers)

def normalizeDegreeAngle (value : TokenPrimitive) : Option JsString :=
  let raw := match value with
    | .number _ text => text.text ++ js "deg"
    | .string value => trim value
    | .boolean _ => []
  (degreeNumber raw).bind fun number => (angles.inRange number).map (·.text ++ js "deg")

def styleTokenValues : List (JsString × List JsString) :=
  [(js "decoration_intensity", [js "none", js "subtle", js "bold"]),
    (js "corner_style", [js "sharp", js "rounded", js "pill"]),
    (js "heading_case", [js "none", js "upper"]),
    (js "surface_treatment", [js "flat", js "gradient"])]

def normalizeStyleTokenOverrideValue (tokenKey : JsString) (value : TokenPrimitive) :
    Option JsString :=
  if tokenKey = js "accent_angle_deg" then
    (normalizeDegreeAngle angles value).bind normalizeCssText
  else
    match styleTokenValues.lookup tokenKey, value with
    | some allowedValues, .string text =>
      if trim text ∈ allowedValues then some (trim text) else none
    | _, _ => none

def normalizeTokenValueForCss (tokenFile tokenKey : JsString) (value : TokenPrimitive) :
    Option JsString :=
  if tokenFile = js "style" then normalizeStyleTokenOverrideValue angles tokenKey value
  else
    (normalizeCssTokenOverrideValue value).filter fun safeValue =>
      tokenFile ≠ js "color" || isHexColor safeValue

/-! ## The declarations -/

/-- A custom property, with its two hyphens, and its value. -/
structure Declaration where
  name : JsString
  value : JsString
  deriving DecidableEq

/-- The line of a declaration. -/
def Declaration.line (d : Declaration) : JsString :=
  js "  " ++ d.name ++ js ": " ++ d.value ++ js ";"

def invertDegreeAngle (value : JsString) : JsString :=
  match degreeNumber (trim value) with
  | none => js "8deg"
  | some number => (angles.negated number).text ++ js "deg"

def cornerRadiusForStyle (value : JsString) : JsString :=
  if value = js "pill" then js "999px"
  else if value = js "rounded" then js "var(--radius-lg)"
  else js "var(--radius-none)"

def decorationBorderWidth (value : JsString) : JsString :=
  if value = js "none" then js "0px" else if value = js "subtle" then js "2px" else js "3px"

def decorationOpacity (value : JsString) : JsString :=
  if value = js "none" then js "0" else if value = js "subtle" then js "0.52" else js "1"

def surfaceBackground (value : JsString) : JsString :=
  if value = js "flat" then js "var(--color-background)"
  else joinedBy (js " ") [js "linear-gradient(105deg,", js "var(--color-background) 0%,",
    js "color-mix(in srgb, var(--color-background) 86%, var(--color-surface)) 47%,",
    js "color-mix(in srgb, var(--color-surface) 72%, var(--color-background)) 100%)"]

def styleDerivedDeclarations (styleTokens : Record JsString JsString) : List Declaration :=
  let token := fun key otherwise => (styleTokens.get? (js key)).getD (js otherwise)
  let decoration := token "decoration_intensity" "bold"
  [⟨js "--style-accent-angle-inverse-deg",
      invertDegreeAngle angles (token "accent_angle_deg" "-8deg")⟩,
    ⟨js "--style-corner-radius", cornerRadiusForStyle (token "corner_style" "sharp")⟩,
    ⟨js "--style-decoration-border-width", decorationBorderWidth decoration⟩,
    ⟨js "--style-decoration-opacity", decorationOpacity decoration⟩,
    ⟨js "--style-heading-transform",
      if token "heading_case" "none" = js "upper" then js "uppercase" else js "none"⟩,
    ⟨js "--style-surface-background",
      surfaceBackground (token "surface_treatment" "gradient")⟩]

end values

structure TokenIssue where
  code : JsString
  tokenFile : JsString
  tokenKey : Option JsString := none
  message : JsString
  deriving DecidableEq

/-- `TokenOverrideMap`: for each file the overrides by their keys. -/
abbrev TokenOverrides := Record JsString (Record JsString TokenPrimitive)

/-- `replace(/\.json$/i, "")`. -/
def withoutJson (name : JsString) : JsString :=
  if js ".json" <:+ asciiLower name then name.take (name.length - 5) else name

def normalizeOverrideMap (overrides : TokenOverrides) : TokenOverrides :=
  overrides.entries.foldl (fun normalized entry =>
    normalized.set (withoutJson entry.1)
      (spread ((normalized.get? (withoutJson entry.1)).getD .empty) entry.2)) .empty

section mapping

variable (toLowerCase : JsString → JsString) (angles : AngleNumbers)

/-- `tokenKeyCandidates`. -/
def tokenKeyCandidates (flattened : Record JsString JsString) : Record JsString JsString :=
  flattened.keys.foldl (fun candidates tokenKey =>
    (candidates.set tokenKey tokenKey).set (toKebabCase toLowerCase tokenKey) tokenKey) .empty

/-- The tokens of a file, with those that are not safe. -/
def normalizeFlattenedTokens (file : TokenFile) : Record JsString JsString × List TokenIssue :=
  let flattened := recordOf ((flattenTokens [] file.tokens).map fun token =>
    (joinedBy (js "-") token.1, token.2.text))
  flattened.entries.foldl (fun (normalized, issues) (tokenKey, tokenValue) =>
    match normalizeTokenValueForCss angles file.name tokenKey (.string tokenValue) with
    | some safeValue => (normalized.set tokenKey safeValue, issues)
    | none => (normalized, issues ++
        [{ code := js "unsafe_base_token_value"
           tokenFile := file.name
           tokenKey := tokenKey
           message := js "Unsafe CSS base token value for \"" ++ file.name ++ js "." ++ tokenKey ++
            js "\"." }])) (.empty, [])

/-- The overrides of a file are put in. -/
def overrideTokens (file : TokenFile) (flattened : Record JsString JsString)
    (overrides : Record JsString TokenPrimitive) : Record JsString JsString × List TokenIssue :=
  let candidates := tokenKeyCandidates toLowerCase flattened
  overrides.entries.foldl (fun (tokens, issues) (overrideKey, overrideValue) =>
    match (candidates.get? overrideKey).or
        (candidates.get? (toKebabCase toLowerCase overrideKey)) with
    | none => (tokens, issues ++
        [{ code := js "unknown_token_key"
           tokenFile := file.name
           tokenKey := overrideKey
           message := js "Unknown token override key \"" ++ overrideKey ++ js "\" in \"" ++
            file.name ++ js "\"." }])
    | some canonicalTokenKey =>
      match normalizeTokenValueForCss angles file.name canonicalTokenKey overrideValue with
      | none => (tokens, issues ++
          [{ code := js "unsafe_token_value"
             tokenFile := file.name
             tokenKey := overrideKey
             message := js "Unsafe CSS token override value for \"" ++ file.name ++ js "." ++
              overrideKey ++ js "\"." }])
      | some safeValue => (tokens.set canonicalTokenKey safeValue, issues)) (flattened, [])

/-- The declarations of a file, and its issues. -/
def fileDeclarations (overrides : TokenOverrides) (file : TokenFile) :
    List Declaration × List TokenIssue :=
  let tokenPrefix := (tokenPrefixByFile.lookup file.name).getD (toKebabCase toLowerCase file.name)
  let base := normalizeFlattenedTokens angles file
  let tokens := overrideTokens toLowerCase angles file base.1
    ((overrides.get? file.name).getD .empty)
  let sorted := tokens.1.entries.insertionSort fun left right => ¬right.1 < left.1
  (sorted.map (fun token => ⟨cssCustomPropertyName toLowerCase tokenPrefix token.1, token.2⟩) ++
    (if file.name = js "style" then styleDerivedDeclarations angles tokens.1 else []),
    base.2 ++ tokens.2)

/-- The declarations of `mapTokensToCss`, of the token files as they are found. -/
def tokenDeclarations (files : List TokenFile) (overrides : TokenOverrides) :
    Except (List TokenIssue) (List Declaration) :=
  let normalizedOverrides := normalizeOverrideMap overrides
  let sorted := files.insertionSort fun left right => tokenFileLe left.name right.name
  let unknown := normalizedOverrides.keys.filterMap fun tokenFile =>
    if tokenFile ∈ files.map (·.name) then none
    else some
      { code := js "unknown_token_file"
        tokenFile := tokenFile
        message := js "Unknown token override file \"" ++ tokenFile ++ js "\"." }
  let mapped := sorted.map (fileDeclarations toLowerCase angles normalizedOverrides)
  let issues := unknown ++ mapped.flatMap (·.2)
  if issues = [] then .ok (mapped.flatMap (·.1)) else .error issues

end mapping

/-- The text of the declarations. -/
def rootCss (declarations : List Declaration) : JsString :=
  joinedBy (js "\n") (js ":root\x7b" :: declarations.map (·.line) ++ [js "\x7d"])

/-! ## What is read of a page -/

/-- What `/:root\{([\s\S]*?)\n\}/` finds in its group: it begins behind the first `:root` of a
block, and ends with the first line behind that begins with a closing brace. -/
def rootBlock (cssOrHtml : JsString) : Option JsString :=
  (cssOrHtml.dropInfix? (js ":root\x7b")).bind fun found =>
    (found.2.dropInfix? (js "\n\x7d")).map (·.1)

/-- What `declarationPattern` finds at the beginning of a text: two hyphens, a name, a colon,
and a value up to a semicolon. The white space before a value is cut off with the one behind
it. -/
def declarationAt (text : JsString) : Option ((JsString × JsString) × JsString) :=
  if js "--" <+: text then
    let name := (text.drop 2).takeWhile isNameUnit
    match (text.drop 2).drop name.length with
    | 58 :: rest =>
      let value := rest.takeWhile (· ≠ 59)
      match rest.drop value.length with
      | _ :: behind => if name = [] ∨ value = [] then none else some ((name, trim value), behind)
      | [] => none
    | _ => none
  else none

/-- All that the pattern finds, one behind the other. -/
def readDeclarations : ℕ → JsString → List (JsString × JsString)
  | 0, _ => []
  | fuel + 1, text =>
    match declarationAt text with
    | some (found, behind) => found :: readDeclarations fuel behind
    | none =>
      match text with
      | [] => []
      | _ :: rest => readDeclarations fuel rest

/-- The value that was set last. -/
def lastValue (pairs : List (JsString × JsString)) (name : JsString) : Option JsString :=
  pairs.reverse.lookup name

def extractRootCssVars (cssOrHtml : JsString) : Option (JsString → Option JsString) :=
  (rootBlock cssOrHtml).map fun block =>
    lastValue (readDeclarations block.length block)

end Autopilot.TokenCss
