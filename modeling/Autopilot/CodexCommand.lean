/-
The two forms of the Codex invocation.

On POSIX the worker starts Codex from a vector of arguments; on Windows it gives Git-Bash one
command line, with the prompt redirected from a file. Both are built from the same options, by
builders of their own.

This module is the argument checks, `shq` and the builders of `cliWorkerCapture.ts`. What the
shell makes of a line is `ShellWords`.
-/
import Autopilot.SupervisorQueue
import Autopilot.Lib.ShellWords

set_option autoImplicit false

namespace Autopilot
namespace CodexCommand

open ShellWords (Token Yields Spells tokens quoteWord isPlain isLiteral)

/-! ## What a caller may put into an argument -/

/-- `CONTROL_CHAR_PATTERN`: `[\x00-\x1f\x7f-\x9f]`. -/
def isControl (c : UInt16) : Bool := c ≤ 0x1f || (0x7f ≤ c && c ≤ 0x9f)

/-- `assertArgvSafeValue`. -/
def assertArgvSafeValue (label value : JsString) : Except JsString Unit :=
  if value = [] then throw (js "invalid_" ++ label ++ js ": value must not be empty")
  else if value.any isWhitespace then
    throw (js "invalid_" ++ label ++ js ": value must not contain whitespace")
  else if value.any isControl then
    throw (js "invalid_" ++ label ++ js ": value must not contain control characters")
  else if value.head? = some 45 then
    throw (js "invalid_" ++ label ++ js ": value must not resemble a CLI flag")
  else return ()

/-- `assertReasoningEffortAllowed`. -/
def assertReasoningEffortAllowed (vendor : RunProvider) (effort : Option JsString) :
    Except JsString Unit := do
  match effort with
  | none => return ()
  | some effort =>
    assertArgvSafeValue (js "reasoning_effort") effort
    if (supportedReasoningEfforts vendor).all (fun supported => supported.text ≠ effort) then
      throw (js "unsupported_reasoning_effort: " ++ vendor.text ++ js " does not support \"" ++
        effort ++ js "\"")

/-! ## The builders -/

/-- `CodexDispatchMode`. -/
inductive CodexDispatchMode where
  | codexImplement | codexReview | codexResearch
  deriving DecidableEq

/-- `CodexDispatchConfig`. -/
structure CodexDispatchConfig where
  sandboxMode : JsString
  approvalPolicy : JsString
  webSearch : Option Bool

/-- `resolveCodexDispatchConfig`. -/
def resolveCodexDispatchConfig : Option CodexDispatchMode → CodexDispatchConfig
  | some .codexImplement => ⟨js "workspace-write", js "never", some false⟩
  | some .codexReview => ⟨js "read-only", js "never", some false⟩
  | some .codexResearch => ⟨js "read-only", js "never", some true⟩
  | none => ⟨js "read-only", js "never", none⟩

/-- What both builders read of the options. -/
structure CodexOptions where
  model : Option JsString
  effort : Option JsString
  outputSchemaPath : Option JsString
  images : Option (List JsString)
  codexMode : Option CodexDispatchMode

/-- `buildCodexConfigArgs`. -/
def buildCodexConfigArgs (mode : Option CodexDispatchMode) (effort : Option JsString) :
    Except JsString (List JsString) := do
  let config := resolveCodexDispatchConfig mode
  let args := [js "-c", js "sandbox_mode=" ++ config.sandboxMode, js "-c",
    js "approval_policy=" ++ config.approvalPolicy]
  let args := args ++ match config.webSearch with
    | some webSearch =>
      [js "-c", js "tools.web_search=" ++ if webSearch then js "true" else js "false"]
    | none => []
  match effort with
  | none => return args
  | some effort =>
    assertReasoningEffortAllowed .codexCli (some effort)
    return args ++ [js "-c", js "model_reasoning_effort=\"" ++ effort ++ js "\""]

/-- `shq`. -/
def shq (value : JsString) : JsString := quoteWord value

/-- `path.replace(/\\/g, "/")` -/
def slashes (path : JsString) : JsString := path.map fun c => if c = 92 then 47 else c

/-- The text of an option that is given, and not empty. -/
def given (option : Option JsString) : Option JsString := option.filter (· ≠ [])

/-- `if (opts.model !== undefined) assertArgvSafeValue("model", opts.model)` -/
def assertModel (opts : CodexOptions) : Except JsString Unit :=
  match opts.model with
  | some model => assertArgvSafeValue (js "model") model
  | none => return ()

/-- `parts.join(" ")` -/
def joined (parts : List JsString) : JsString := (parts.intersperse [32]).flatten

/-- `buildCodexBashCommand`. -/
def buildCodexBashCommand (codexPath : JsString) (opts : CodexOptions)
    (outFile promptFile : JsString) : Except JsString JsString := do
  assertModel opts
  let dispatchArgs ← buildCodexConfigArgs opts.codexMode opts.effort
  let parts := [shq codexPath, js "exec"] ++ dispatchArgs
  let parts := parts ++ match given opts.outputSchemaPath with
    | some path => [js "--output-schema", shq (slashes path)]
    | none => []
  let parts := parts ++ match given opts.model with
    | some model => [js "--model", shq model]
    | none => []
  let parts := parts ++
    (opts.images.getD []).flatMap fun img => [js "-i", shq (slashes img)]
  return joined (parts ++
    [js "-o", shq (slashes outFile), js "-", js "<", shq (slashes promptFile)])

/-- `buildCodexExecArgs`. -/
def buildCodexExecArgs (opts : CodexOptions) (outputFile : JsString) :
    Except JsString (List JsString) := do
  assertModel opts
  let schemaArgs := match given opts.outputSchemaPath with
    | some path => [js "--output-schema", path]
    | none => []
  let configArgs ← buildCodexConfigArgs opts.codexMode opts.effort
  let modelArgs := match given opts.model with
    | some model => [js "--model", model]
    | none => []
  return [js "exec"] ++ configArgs ++ schemaArgs ++ [js "-o", outputFile] ++ modelArgs ++
    ((opts.images.getD []).flatMap fun img => [js "-i", img]) ++ [js "-"]

/-! ## The words of an invocation -/

/-- The words that name the schema. -/
def schemaWords (opts : CodexOptions) : List JsString :=
  match given opts.outputSchemaPath with
  | some path => [js "--output-schema", path]
  | none => []

/-- The words that name the model. -/
def modelWords (opts : CodexOptions) : List JsString :=
  match given opts.model with
  | some model => [js "--model", model]
  | none => []

/-- The words that name the images. -/
def imageWords (opts : CodexOptions) : List JsString :=
  (opts.images.getD []).flatMap fun img => [js "-i", img]

/-- The options with their paths written the way Git-Bash reads them. -/
def slashed (opts : CodexOptions) : CodexOptions :=
  { opts with
    outputSchemaPath := opts.outputSchemaPath.map slashes
    images := opts.images.map (·.map slashes) }

/-- A word of the configuration, as it comes out of the shell. -/
def unquoted (word : JsString) : JsString := word.filter (· ≠ ShellWords.doubleQuote)

/-! ### One word -/

theorem yields_plain {text : JsString} (hne : text ≠ []) (h : text.all isPlain = true) :
    Yields text (.word text) :=
  (ShellWords.spells_plain hne (List.all_eq_true.1 h)).yields

theorem yields_shq (value : JsString) : Yields (shq value) (.word value) :=
  (ShellWords.spells_quoteWord value).yields

/-- A plain word has no double quotes to lose. -/
theorem unquoted_plain {text : JsString} (h : text.all isPlain = true) : unquoted text = text := by
  unfold unquoted
  rw [List.filter_eq_self]
  intro c hc
  have hplain := List.all_eq_true.1 h c hc
  unfold isPlain at hplain
  simp only [Bool.and_eq_true] at hplain
  exact hplain.1.1.1.1.2

/-- The effort stands between double quotes, and the shell takes them away. -/
theorem yields_effort (effort : RunReasoningEffort) :
    Yields (js "model_reasoning_effort=\"" ++ effort.text ++ js "\"")
      (.word (unquoted (js "model_reasoning_effort=\"" ++ effort.text ++ js "\""))) := by
  have hname : Spells (js "model_reasoning_effort=") (js "model_reasoning_effort=") :=
    ShellWords.spells_plain (by decide) (List.all_eq_true.1 (by decide))
  have htext : effort.text.all isLiteral = true := by cases effort <;> decide
  have hvalue := ShellWords.spells_double (List.all_eq_true.1 htext)
  have hpiece : js "model_reasoning_effort=\"" ++ effort.text ++ js "\"" =
      js "model_reasoning_effort=" ++ ShellWords.doubleQuote :: (effort.text ++
        [ShellWords.doubleQuote]) := by
    rw [List.append_assoc, js_ofList, js_ofList, js_ofList]
    rfl
  have hword : unquoted (js "model_reasoning_effort=\"" ++ effort.text ++ js "\"") =
      js "model_reasoning_effort=" ++ effort.text := by
    cases effort <;> decide
  rw [hword, hpiece]
  exact (hname.append hvalue).yields

/-! ### The configuration -/

/-- An effort that is let through is one of those Codex supports. -/
theorem assertReasoningEffortAllowed_ok {effort : JsString}
    (h : assertReasoningEffortAllowed .codexCli (some effort) = .ok ()) :
    ∃ supported : RunReasoningEffort, supported.text = effort := by
  unfold assertReasoningEffortAllowed at h
  dsimp only at h
  cases hsafe : assertArgvSafeValue (js "reasoning_effort") effort with
  | error message =>
    rw [hsafe] at h
    cases h
  | ok _ =>
    rw [hsafe] at h
    dsimp only [bind, Except.bind] at h
    split at h
    · cases h
    · rename_i hsupported
      rw [List.all_eq_true] at hsupported
      push Not at hsupported
      obtain ⟨supported, -, hsame⟩ := hsupported
      exact ⟨supported, by simpa using hsame⟩

/-- The configuration without the effort. -/
def fixedArgs (mode : Option CodexDispatchMode) : List JsString :=
  [js "-c", js "sandbox_mode=" ++ (resolveCodexDispatchConfig mode).sandboxMode, js "-c",
    js "approval_policy=" ++ (resolveCodexDispatchConfig mode).approvalPolicy] ++
    match (resolveCodexDispatchConfig mode).webSearch with
    | some webSearch =>
      [js "-c", js "tools.web_search=" ++ if webSearch then js "true" else js "false"]
    | none => []

/-- The words of the configuration are plain, but for the one that gives the effort. -/
theorem mem_buildCodexConfigArgs {mode : Option CodexDispatchMode} {effort : Option JsString}
    {config : List JsString} (h : buildCodexConfigArgs mode effort = .ok config)
    {word : JsString} (hword : word ∈ config) :
    (word ≠ [] ∧ word.all isPlain = true) ∨ ∃ supported : RunReasoningEffort,
      word = js "model_reasoning_effort=\"" ++ supported.text ++ js "\"" := by
  have hfixed : ((fixedArgs mode).all fun word => word ≠ [] && word.all isPlain) = true := by
    cases mode with
    | none => decide +kernel
    | some mode => cases mode <;> decide +kernel
  have hplain (hmem : word ∈ fixedArgs mode) : word ≠ [] ∧ word.all isPlain = true := by
    simpa using List.all_eq_true.1 hfixed word hmem
  cases effort with
  | none =>
    have hconfig : fixedArgs mode = config := by
      injection h
    exact Or.inl (hplain (hconfig ▸ hword))
  | some effort =>
    unfold buildCodexConfigArgs at h
    dsimp only at h
    cases hallowed : assertReasoningEffortAllowed .codexCli (some effort) with
    | error message =>
      rw [hallowed] at h
      cases h
    | ok _ =>
      obtain ⟨supported, hsupported⟩ := assertReasoningEffortAllowed_ok hallowed
      rw [hallowed] at h
      dsimp only [bind, Except.bind] at h
      have hconfig : fixedArgs mode ++
          [js "-c", js "model_reasoning_effort=\"" ++ effort ++ js "\""] = config := by
        injection h
      rw [← hconfig, List.mem_append, List.mem_cons, List.mem_singleton] at hword
      rcases hword with hmem | rfl | rfl
      · exact Or.inl (hplain hmem)
      · exact Or.inl (by decide)
      · exact Or.inr ⟨supported, by rw [hsupported]⟩

theorem yields_config {mode : Option CodexDispatchMode} {effort : Option JsString}
    {config : List JsString} (h : buildCodexConfigArgs mode effort = .ok config) :
    List.Forall₂ Yields config ((config.map unquoted).map .word) := by
  rw [List.map_map, List.forall₂_map_right_iff, List.forall₂_same]
  intro word hword
  rw [Function.comp_apply]
  rcases mem_buildCodexConfigArgs h hword with ⟨hne, hplain⟩ | ⟨supported, rfl⟩
  · rw [unquoted_plain hplain]
    exact yields_plain hne hplain
  · exact yields_effort supported

/-! ### The options -/

theorem given_slashes (path : Option JsString) :
    given (path.map slashes) = (given path).map slashes := by
  cases path with
  | none => rfl
  | some path =>
    cases path with
    | nil => rfl
    | cons c path => rfl

/-- Words that one list of pieces stands for. -/
theorem yields_option (name : JsString) (value : JsString) (hne : name ≠ [])
    (hplain : name.all isPlain = true) :
    List.Forall₂ Yields [name, shq value] ([name, value].map .word) :=
  .cons (yields_plain hne hplain) (.cons (yields_shq value) .nil)

theorem yields_schema (opts : CodexOptions) :
    List.Forall₂ Yields (match given opts.outputSchemaPath with
      | some path => [js "--output-schema", shq (slashes path)]
      | none => []) ((schemaWords (slashed opts)).map .word) := by
  unfold schemaWords slashed
  dsimp only
  rw [given_slashes]
  cases given opts.outputSchemaPath with
  | none => exact .nil
  | some path => exact yields_option (js "--output-schema") (slashes path) (by decide) (by decide)

theorem yields_model (opts : CodexOptions) :
    List.Forall₂ Yields (match given opts.model with
      | some model => [js "--model", shq model]
      | none => []) ((modelWords opts).map .word) := by
  unfold modelWords
  cases given opts.model with
  | none => exact .nil
  | some model => exact yields_option (js "--model") model (by decide) (by decide)

theorem yields_images (opts : CodexOptions) :
    List.Forall₂ Yields ((opts.images.getD []).flatMap fun img => [js "-i", shq (slashes img)])
      ((imageWords (slashed opts)).map .word) := by
  have himages : (slashed opts).images.getD [] = (opts.images.getD []).map slashes := by
    unfold slashed
    cases opts.images <;> rfl
  unfold imageWords
  rw [himages]
  induction opts.images.getD [] with
  | nil => exact .nil
  | cons img images ih =>
    rw [List.map_cons, List.flatMap_cons, List.flatMap_cons, List.map_append]
    exact List.rel_append (yields_option (js "-i") (slashes img) (by decide) (by decide)) ih

/-! ## The command line -/

/-- **What the shell is given is what the vector says.** Where the options are refused, both
builders refuse them, with one message. Else the shell reads one command out of the line, whose
words are those of the vector, with `--output-schema`, `--model` and `-i` in front of `-o`: in a
path a backslash has become a slash, and the shell has taken the double quotes from the words of
the configuration. Behind them stands one redirection, of the input, and nothing else. -/
theorem tokens_buildCodexBashCommand (codexPath : JsString) (opts : CodexOptions)
    (outFile promptFile : JsString) :
    (∃ message, buildCodexBashCommand codexPath opts outFile promptFile = .error message ∧
      buildCodexExecArgs opts outFile = .error message) ∨
    ∃ config line, buildCodexConfigArgs opts.codexMode opts.effort = .ok config ∧
      buildCodexExecArgs opts outFile = .ok ([js "exec"] ++ config ++ schemaWords opts ++
        [js "-o", outFile] ++ modelWords opts ++ imageWords opts ++ [js "-"]) ∧
      buildCodexBashCommand codexPath opts outFile promptFile = .ok line ∧
      tokens line = some (([codexPath, js "exec"] ++ config.map unquoted ++
        schemaWords (slashed opts) ++ modelWords opts ++ imageWords (slashed opts) ++
          [js "-o", slashes outFile, js "-"]).map .word ++
        [.operator (js "<"), .word (slashes promptFile)]) := by
  unfold buildCodexBashCommand buildCodexExecArgs
  cases hmodel : assertModel opts with
  | error message => exact Or.inl ⟨message, rfl, rfl⟩
  | ok _ =>
    cases hconfig : buildCodexConfigArgs opts.codexMode opts.effort with
    | error message => exact Or.inl ⟨message, rfl, rfl⟩
    | ok config =>
      refine Or.inr ⟨config, _, rfl, rfl, rfl, ShellWords.tokens_joined ?_⟩
      have hfront : List.Forall₂ Yields [shq codexPath, js "exec"]
          ([codexPath, js "exec"].map .word) :=
        .cons (yields_shq codexPath) (.cons (yields_plain (by decide) (by decide)) .nil)
      have hback : List.Forall₂ Yields [js "-o", shq (slashes outFile), js "-", js "<",
          shq (slashes promptFile)] ([js "-o", slashes outFile, js "-"].map .word ++
            [.operator (js "<"), .word (slashes promptFile)]) :=
        .cons (yields_plain (by decide) (by decide)) (.cons (yields_shq _)
          (.cons (yields_plain (by decide) (by decide)) (.cons ShellWords.yields_input
            (.cons (yields_shq _) .nil))))
      rw [List.map_append, List.map_append, List.map_append, List.map_append, List.map_append,
        List.append_assoc _ (List.map _ _) [_, _]]
      exact List.rel_append (List.rel_append (List.rel_append (List.rel_append (List.rel_append
        hfront (yields_config hconfig)) (yields_schema opts)) (yields_model opts))
          (yields_images opts)) hback

/-- The vector asks for `model_reasoning_effort="high"`, the line for
`model_reasoning_effort=high`. -/
theorem tokens_not_wordForWord :
    ¬ ∀ (codexPath : JsString) (opts : CodexOptions) (outFile promptFile line : JsString)
      (args : List JsString),
      buildCodexBashCommand codexPath opts outFile promptFile = .ok line →
        buildCodexExecArgs opts outFile = .ok args →
          ∃ redirected, tokens line = some ((codexPath :: args).map .word ++
            [.operator (js "<"), .word redirected]) := by
  intro h
  obtain ⟨redirected, hread⟩ := h (js "codex") ⟨none, some (js "high"), none, none, none⟩ (js "out")
    (js "prompt") _ _ rfl rfl
  have heffort := congrArg (Option.bind · (·[7]?)) hread
  have hline : (tokens (joined [shq (js "codex"), js "exec", js "-c",
      js "sandbox_mode=read-only", js "-c", js "approval_policy=never", js "-c",
      js "model_reasoning_effort=\"high\"", js "-o", shq (js "out"), js "-", js "<",
      shq (js "prompt")])).bind (·[7]?) = some (.word (js "model_reasoning_effort=high")) := by
    decide +kernel
  have hword : some (Token.word (js "model_reasoning_effort=high")) =
      some (Token.word (js "model_reasoning_effort=\"high\"")) := hline.symm.trans heffort
  exact absurd hword (by decide)

end CodexCommand
end Autopilot
