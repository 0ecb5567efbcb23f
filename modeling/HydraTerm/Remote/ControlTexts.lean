import Mathlib

/-!
# Texts on the control channel

Every text that a browser sends is cleaned before a desktop service sees it: control characters are
dropped, the rest is cut to a bound and trimmed, and a text that does not have the required shape is
left out. Names of agents come from closed lists. The identifier of a provider's session is never
changed; one that its normal form would change is refused instead.

Control characters and white space are those of Unicode. Whether a path is absolute depends on the
platform, and the canonical form of a UUID belongs to a library; both are passed in.
-/

namespace HydraTerm.Remote.Control

/-- `char::is_control`. -/
def isControl (c : Char) : Bool := decide (c.toNat < 0x20 ∨ (0x7F ≤ c.toNat ∧ c.toNat < 0xA0))

/-- `char::is_whitespace`. -/
def isWhitespace (c : Char) : Bool :=
  decide ((0x9 ≤ c.toNat ∧ c.toNat ≤ 0xD) ∨ (0x2000 ≤ c.toNat ∧ c.toNat ≤ 0x200A))
    || [0x20, 0x85, 0xA0, 0x1680, 0x2028, 0x2029, 0x202F, 0x205F, 0x3000].contains c.toNat

/-- `str::trim`. -/
def trim (text : String) : String :=
  String.ofList ((text.toList.dropWhile isWhitespace).reverse.dropWhile isWhitespace).reverse

/-- The text without control characters, cut to a number of characters, and trimmed. -/
def cleaned (cap : Nat) (text : String) : String :=
  trim (String.ofList ((text.toList.filter (fun c => !isControl c)).take cap))

/-- A text, or nothing where it is empty. -/
def nonempty (text : String) : Option String := if text.isEmpty then none else some text

/-- `sanitize_label`. -/
def sanitizeLabel (label : Option String) : Option String := label.bind (nonempty ∘ cleaned 64)

/-- `sanitize_pane_name`. -/
def sanitizePaneName (name : Option String) : Option String := name.bind (nonempty ∘ cleaned 80)

/-- `sanitize_model`. -/
def sanitizeModel (model : Option String) : Option String := model.bind (nonempty ∘ cleaned 96)

/-- `sanitize_custom_command`: the empty command is kept, it clears one that was set. -/
def sanitizeCustomCommand (command : Option String) : Option String := command.map (cleaned 512)

/-- `sanitize_id_like`. -/
def sanitizeIdLike (id : String) : String := cleaned 128 id

/-- `sanitize_cwd`: an absolute path. -/
def sanitizeCwd (isAbsolute : String → Bool) (cwd : Option String) : Option String :=
  cwd.bind (fun text =>
    let path := cleaned 512 text
    if path.toList.head? = some '/' || isAbsolute path then some path else none)

/-- The working directory of a pane request, trimmed. -/
def trimmedCwd (cwd : Option String) : Option String := cwd.bind (nonempty ∘ trim)

/-- `sanitize_agent`: the providers that can be launched. -/
def sanitizeAgent (agent : String) : Option String :=
  if ["claude", "codex", "copilot", "antigravity", "kimi", "kiro", "cursor", "amp", "devin",
      "factory", "gemini", "opencode"].contains agent then some agent else none

/-- `sanitize_history_agent`: the providers whose history may be read. -/
def sanitizeHistoryAgent (agent : String) : Option String :=
  if ["claude", "codex", "copilot", "antigravity", "kimi", "kiro", "cursor", "gemini", "opencode",
      "devin"].contains agent then some agent else none

/-- `sanitize_split_agent`: a provider, or a plain terminal. -/
def sanitizeSplitAgent (agent : String) : Option String :=
  if agent = "terminal" then some agent else sanitizeAgent agent

/-- `validate_optional_agent`: an absent agent is fine, an unknown one is not. -/
def validateOptionalAgent (agent : Option String) : Except Unit (Option String) :=
  match agent with
  | none => .ok none
  | some agent =>
    match sanitizeSplitAgent agent with
    | some agent => .ok (some agent)
    | none => .error ()

/-- `sanitize_opaque_resume_target`. -/
def sanitizeOpaqueResumeTarget (value : String) : Option String :=
  let value := trim value
  if !value.isEmpty && value.toList.head? != some '-' && decide (value.length ≤ 256)
      && !value.toList.any isControl then some value else none

/-- `sanitize_resume_session_id`. -/
def sanitizeResumeSessionId (agent : Option String) (value : Option String) : Option String :=
  if agent = some "amp" ∨ agent = some "devin" ∨ agent = some "factory" then
    value.bind sanitizeOpaqueResumeTarget
  else value.bind (nonempty ∘ sanitizeIdLike)

/-- An ASCII hexadecimal digit. -/
def isHexDigit (c : Char) : Bool :=
  ('0' ≤ c && c ≤ '9') || ('a' ≤ c && c ≤ 'f') || ('A' ≤ c && c ≤ 'F')

/-- `sanitize_accent_color`: a short or long hexadecimal colour. -/
def sanitizeAccentColor (color : Option String) : Option String :=
  color.bind (fun color =>
    let color := trim color
    match color.toList with
    | '#' :: digits =>
      if (color.utf8ByteSize = 4 ∨ color.utf8ByteSize = 7) ∧ digits.all isHexDigit then some color
      else none
    | _ => none)

/-- `sanitize_resume_mode`. -/
def sanitizeResumeMode (mode : Option String) : Option String :=
  mode.bind (fun mode =>
    if mode = "new" then some "none"
    else if ["none", "resume", "continue"].contains mode then some mode
    else none)

/-- `sanitize_model_name`. -/
def sanitizeModelName (raw : String) : Option String :=
  let name := trim raw
  if name.isEmpty || decide (name.length > 96) || name.toList.any isControl then none
  else some name

/-- One pinned directory of a project. -/
structure ProjectDirectoryWire where
  name : String
  path : String

/-- `sanitize_directories`. -/
def sanitizeDirectories (directories : Option (List ProjectDirectoryWire)) :
    Option (List ProjectDirectoryWire) :=
  directories.map (fun directories =>
    ((directories.take 32).map (fun directory =>
      { name := cleaned 96 directory.name, path := cleaned 512 directory.path })).filter
      (fun directory => !directory.path.isEmpty))

/-! ## Provider sessions -/

/-- `clean_opaque_session_id`. -/
def cleanOpaqueSessionId (candidate : String) : Option String :=
  let value := trim candidate
  if !value.isEmpty && decide (value.length ≤ 256) && value.toList.head? != some '-'
      && !value.toList.any isControl then some value else none

variable (canonicalUuid : String → Option String)

/-- `clean_kimi_session_id`. -/
def cleanKimiSessionId (candidate : String) : Option String :=
  let value := trim candidate
  if "session_".toList.isPrefixOf value.toList then
    let uuid := String.ofList (value.toList.drop 8)
    if canonicalUuid uuid = some uuid then some value else none
  else none

/-- `normalize_provider_session_id`. -/
def normalizeProviderSessionId (agent candidate : String) : Option String :=
  if ["copilot", "antigravity", "kiro", "cursor"].contains agent then canonicalUuid (trim candidate)
  else if agent = "kimi" then cleanKimiSessionId canonicalUuid candidate
  else if ["claude", "codex", "gemini", "opencode", "devin"].contains agent then
    cleanOpaqueSessionId candidate
  else none

/-- `exact_provider_session_id`: only what the normal form leaves alone. -/
def exactProviderSessionId (agent candidate : String) : Option String :=
  match normalizeProviderSessionId canonicalUuid agent candidate with
  | none => none
  | some normalized => if normalized = candidate then some normalized else none

/-- An accepted identifier is the one that was sent. -/
theorem exactProviderSessionId_eq {canonicalUuid : String → Option String}
    {agent candidate accepted : String}
    (isAccepted : exactProviderSessionId canonicalUuid agent candidate = some accepted) :
    accepted = candidate := by
  unfold exactProviderSessionId at isAccepted
  split at isAccepted
  · contradiction
  · split at isAccepted
    · next same =>
      cases isAccepted
      exact same
    · contradiction

/-! ## Launch flags -/

/-- A JSON value. -/
inductive Json where
  | null
  | bool (value : Bool)
  | number (text : String)
  | string (text : String)
  | array (items : List Json)
  | object (fields : List (String × Json))

/-- `Value::as_object` and `Map::get`. -/
def Json.field? : Json → String → Option Json
  | .object fields, name => (fields.find? (·.1 == name)).map Prod.snd
  | _, _ => none

/-- `Value::as_str`. -/
def Json.text? : Json → Option String
  | .string text => some text
  | _ => none

/-- `Value::as_bool`. -/
def Json.bool? : Json → Option Bool
  | .bool value => some value
  | _ => none

/-- The first of the given fields that is present. -/
def firstField (flags : Option Json) (names : List String) : Option Json :=
  flags.bind (fun flags => names.findSome? flags.field?)

/-- `model_from_launch_flags`. -/
def modelFromLaunchFlags (flags : Option Json) : Option String :=
  ((firstField flags ["model"]).bind Json.text?).bind sanitizeModelName

/-- `resume_file_from_launch_flags`. -/
def resumeFileFromLaunchFlags (isAbsolute : String → Bool) (flags : Option Json) : Option String :=
  ((firstField flags ["resumeSessionFile", "resume_session_file"]).bind Json.text?).bind
    (fun path => sanitizeCwd isAbsolute (some path))

/-- `dangerous_from_launch_flags`. -/
def dangerousFromLaunchFlags (flags : Option Json) : Bool :=
  ((firstField flags ["dangerouslySkipPermissions", "dangerous_skip_permissions",
    "dangerous"]).bind Json.bool?).getD false

/-! ## Lines -/

/-- Field names that a control message never carries. -/
def forbiddenFields : List String :=
  ["pty", "stdout", "stderr", "scrollback", "keystroke", "keystrokes", "command", "cmd", "args",
    "env", "data", "bytes", "file", "grid", "damage", "output", "private_key", "privatekey",
    "privkey"]

/-- `str::to_lowercase` as far as it yields ASCII: the letters, and the two characters beyond ASCII
whose lower case begins with an ASCII letter. -/
def lowered (c : Char) : List Char :=
  if 'A' ≤ c ∧ c ≤ 'Z' then [Char.ofNat (c.toNat + 32)]
  else if c.toNat = 0x212A then ['k']
  else if c.toNat = 0x130 then ['i', Char.ofNat 0x307]
  else [c]

/-- `forbidden_field_in`: the first forbidden name that the line quotes. -/
def forbiddenFieldIn (line : String) : Option String :=
  forbiddenFields.find? (fun name =>
    (line.toList.flatMap lowered).tails.any ('"' :: name.toList ++ ['"']).isPrefixOf)

end HydraTerm.Remote.Control
