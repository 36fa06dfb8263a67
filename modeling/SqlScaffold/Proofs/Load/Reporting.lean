import SqlScaffold.Load.Source
import SqlScaffold.Load.Url
import SqlScaffold.Proofs.Files.Failure
import SqlScaffold.Proofs.Json.Limits
import SqlScaffold.Proofs.Settings.Refusal
import SqlScaffold.Proofs.Text.Utf8

/-!
Which files and addresses are reported. Loading either brings what it is asked for or is refused with
an error of its own, unless a name is too long to look for, the bytes of a file are no text, the
document goes beyond a limit of its reader, or the host part of an address cannot be read.
-/

namespace SqlScaffold.Load

open Text

theorem mem_of_mem_hostOf {c : Char} {chars : List Char} (inside : c ∈ hostOf chars) :
    c ∈ chars := by
  unfold hostOf at inside
  split at inside
  · next rest =>
    have kept := (List.takeWhile_sublist _).subset inside
    exact List.mem_cons_of_mem _ (List.mem_cons_of_mem _ kept)
  · cases inside

theorem normalForm_of_common {text : String} (common : ∀ c ∈ text.toList, c.toNat < 128) :
    normalForm text = text :=
  if_pos (by simpa using common)

theorem checkHost_of_plain {host : List Char}
    (plain : ∀ c ∈ host, c.toNat < 128 ∧ c ≠ '[' ∧ c ≠ ']') : checkHost host = .ok () := by
  have opened : host.contains '[' = false := by simpa using fun inside => (plain _ inside).2.1 rfl
  have closed : host.contains ']' = false := by simpa using fun inside => (plain _ inside).2.2 rfl
  have brackets : checkBrackets host = .ok () := by
    rw [checkBrackets, opened, closed]
    rfl
  have marks : checkMarks host = .ok () := by
    rw [checkMarks, normalForm_of_common]
    · exact if_neg fun hidden => hidden.1 rfl
    · intro c inside
      rw [String.toList_ofList] at inside
      exact (plain c (List.mem_filter.mp inside).1).1
  rw [checkHost, brackets]
  exact marks

/-- The host part of an address can be read if the address has only common characters and no
brackets. -/
theorem exists_isUrl_of_plain {url : String}
    (plain : ∀ c ∈ url.toList, c.toNat < 128 ∧ c ≠ '[' ∧ c ≠ ']') :
    ∃ valid, isUrl url = .ok valid := by
  have schemeless {chars rest : List Char} (found : afterScheme? chars = some rest) :
      rest <:+ chars := by
    unfold afterScheme? at found
    extract_lets at found
    split at found
    · cases found
      exact List.drop_suffix _ _
    · cases found
  unfold isUrl
  extract_lets trimmed chars scheme host
  have inside : ∀ c ∈ host, c ∈ url.toList := by
    intro c found
    have behind : c ∈ scheme.getD chars := mem_of_mem_hostOf found
    have kept : c ∈ chars := by
      cases split : scheme with
      | none => simpa [split] using behind
      | some rest => exact (schemeless split).subset (by simpa [split] using behind)
    exact (List.dropWhile_suffix _).subset (List.mem_filter.mp kept).1
  rw [checkHost_of_plain fun c found => plain c (inside c found)]
  exact ⟨_, rfl⟩

end SqlScaffold.Load

namespace SqlScaffold

open Files Text

def Json.Exceeds (document : String) : Prop :=
  ∃ excess, Json.read document = .error (.exceeding excess)

def Files.Content.IsMadeOf (content : Content) (chars : List Char) : Prop :=
  match content with
  | .text document => chars = document.toList
  | .bytes encoded => encoded = encodeUtf8 chars

def Files.Content.IsUsable (content : Content) : Prop :=
  ∃ chars, content.IsMadeOf chars ∧ ¬Json.Exceeds (String.ofList (unifyNewlines chars))

theorem Files.Content.readText_eq_ok_iff {content : Content} {text : String} :
    content.readText = .ok text ↔
      ∃ chars, content.IsMadeOf chars ∧ String.ofList (unifyNewlines chars) = text := by
  rw [readText, Outcome.map_eq_ok_iff]
  refine exists_congr fun chars => and_congr_left' ?_
  cases content with
  | text document => simp [Content.chars, IsMadeOf, eq_comm]
  | bytes encoded => exact decodeUtf8_eq_ok_iff

theorem Files.Content.isUsable_iff {content : Content} :
    content.IsUsable ↔ ∃ text, content.readText = .ok text ∧ ¬Json.Exceeds text := by
  simp only [readText_eq_ok_iff, IsUsable]
  constructor
  · rintro ⟨chars, made, within⟩
    exact ⟨_, ⟨chars, made, rfl⟩, within⟩
  · rintro ⟨_, ⟨chars, made, rfl⟩, within⟩
    exact ⟨chars, made, within⟩

structure Files.FileTree.Offers (tree : FileTree) (path : Path) : Prop where
  askable : path.HasNull ∨ ¬tree.TooLong path
  usable : ∀ content, tree.read path = .ok content → content.IsUsable

theorem Files.FileTree.offers_iff {tree : FileTree} {path : Path} :
    tree.Offers path ↔ ¬(¬path.HasNull ∧ tree.TooLong path) ∧
      ∀ content, tree.read path = .ok content → content.IsUsable := by
  rw [not_and_or, not_not]
  exact ⟨fun offers => ⟨offers.askable, offers.usable⟩, fun ⟨askable, usable⟩ => ⟨askable, usable⟩⟩

section Reported

variable {ε δ α β : Type} {report : δ → ε}

/-- What is asked for comes back, or an error that is reported. -/
def IsReported (report : δ → ε) (outcome : Except ε α) : Prop :=
  (∃ value, outcome = .ok value) ∨ ∃ error, outcome = .error (report error)

@[simp] theorem isReported_ok (value : α) : IsReported report (.ok value) := .inl ⟨value, rfl⟩

@[simp] theorem isReported_error_iff {failure : ε} :
    IsReported report (.error failure : Except ε α) ↔ ∃ error, failure = report error := by
  simp [IsReported]

theorem isReported_bind_iff {first : Except ε α} {next : α → Except ε β} :
    IsReported report (first >>= next) ↔
      IsReported report first ∧ ∀ value, first = .ok value → IsReported report (next value) := by
  cases first with
  | ok value => simp [bind, Except.bind]
  | error failure => simp [bind, Except.bind]

/-- Opening a file and reading its text is reported, and so is what is made of the text, exactly if the
content can be used. -/
theorem isReported_opened_iff {tree : FileTree} {path : Path} (clean : ¬path.HasNull)
    {unopened : AccessError → ε} {undecodable : Text.Utf8Fault → ε} {parse : String → Except ε α}
    (refuses : ∀ cause, ∃ error, unopened (.system cause) = report error)
    (unreported : ∀ fault error, undecodable fault ≠ report error)
    (parses : ∀ text, IsReported report (parse text) ↔ ¬Json.Exceeds text) :
    IsReported report ((tree.read path).mapError unopened >>= fun content =>
        content.readText.mapError undecodable >>= parse) ↔
      ∀ content, tree.read path = .ok content → content.IsUsable := by
  have opened : IsReported report ((tree.read path).mapError unopened) := by
    cases held : tree.read path with
    | ok content => simp
    | error error =>
      obtain ⟨cause, rfl⟩ := FileTree.system_of_read clean held
      simpa using refuses cause
  rw [isReported_bind_iff, and_iff_right opened]
  simp only [Outcome.mapError_eq_ok_iff]
  refine forall₂_congr fun content _ => ?_
  rw [isReported_bind_iff, Content.isUsable_iff]
  cases content.readText with
  | ok text => simp [parses]
  | error fault => simp [unreported]

end Reported

namespace Load

@[simp] theorem isReported_refused {α : Type} (error : LoadError) :
    IsReported LoadFailure.load (refused error : Except LoadFailure α) := .inr ⟨error, rfl⟩

theorem isReported_readDocument_iff (wrap : Json.ReadError → LoadError) (document : String) :
    IsReported LoadFailure.load (readDocument wrap document) ↔ ¬Json.Exceeds document := by
  unfold readDocument Json.Exceeds
  cases Json.read document with
  | ok value => simp
  | error refusal =>
    cases refusal with
    | malformed error => simp
    | exceeding excess => simp

theorem isReported_ofDocument (document : Value) (source : String) :
    IsReported LoadFailure.load (ofDocument document source).value := by
  unfold ofDocument
  split
  · exact .inr ⟨_, rfl⟩
  · exact isReported_ok _

theorem isReported_readFile_iff {tree : FileTree} {path : Path} (clean : ¬path.HasNull) :
    IsReported LoadFailure.load (readFile tree path) ↔
      ∀ content, tree.read path = .ok content → content.IsUsable :=
  isReported_opened_iff clean (fun cause => ⟨.unreadable path cause, rfl⟩) (by simp)
    (isReported_readDocument_iff (.invalidFile path))

theorem fromFile_reported_iff (tree : FileTree) (path : Path) :
    IsReported LoadFailure.load (fromFile tree path).value ↔ tree.Offers path := by
  rw [fromFile, Logged.value_after, FileTree.offers_iff]
  cases held : tree.holds path with
  | error error =>
    have long := (tree.holds_eq_error_iff path).mp ⟨error, held⟩
    simp [Logged.silent, long]
  | ok found =>
    rw [and_iff_right (FileTree.askable_of_holds held)]
    cases found with
    | false =>
      refine iff_of_true (isReported_refused _) fun content opened => ?_
      cases held.symm.trans (FileTree.holds_of_read opened)
    | true =>
      rw [← isReported_readFile_iff (FileTree.clean_of_holds held)]
      simp only [Logged.value_after]
      cases readFile tree path with
      | error failure => simp [Logged.silent]
      | ok document => simp [isReported_ofDocument]

theorem readDocument_eq_ok_iff {wrap : Json.ReadError → LoadError} {document : String}
    {value : Value} : readDocument wrap document = .ok value ↔ Json.read document = .ok value := by
  unfold readDocument
  cases Json.read document with
  | ok other => simp
  | error refusal => cases refusal <;> simp [refused]

theorem value_ofDocument_eq_ok_iff {document : Value} {source : String}
    {declarations : List Value} :
    (ofDocument document source).value = .ok declarations ↔
      declarationsOf document source = .ok declarations := by
  unfold ofDocument
  cases declarationsOf document source with
  | ok other => simp
  | error error => simp [refused, Logged.silent]

theorem readFile_eq_ok_iff {tree : FileTree} {path : Path} {document : Value} :
    readFile tree path = .ok document ↔ ∃ content text, tree.read path = .ok content ∧
      content.readText = .ok text ∧ Json.read text = .ok document := by
  simp only [readFile, Outcome.bind_eq_ok_iff, Outcome.mapError_eq_ok_iff, readDocument_eq_ok_iff]
  constructor
  · rintro ⟨content, opened, text, decoded, parsed⟩
    exact ⟨content, text, opened, decoded, parsed⟩
  · rintro ⟨content, text, opened, decoded, parsed⟩
    exact ⟨content, opened, text, decoded, parsed⟩

theorem holds_of_readFile {tree : FileTree} {path : Path} {document : Value}
    (given : readFile tree path = .ok document) : tree.holds path = .ok true := by
  obtain ⟨content, _, opened, _⟩ := readFile_eq_ok_iff.mp given
  exact FileTree.holds_of_read opened

theorem fromFile_eq_ok_iff_readFile {tree : FileTree} {path : Path} {declarations : List Value} :
    (fromFile tree path).value = .ok declarations ↔ ∃ document,
      readFile tree path = .ok document ∧ declarationsOf document path.text = .ok declarations := by
  rw [fromFile, Logged.value_after]
  cases held : tree.holds path with
  | error error =>
    refine iff_of_false (by simp [Logged.silent]) ?_
    rintro ⟨document, given, _⟩
    cases held.symm.trans (holds_of_readFile given)
  | ok found =>
    cases found with
    | false =>
      refine iff_of_false (by simp [Logged.silent, refused]) ?_
      rintro ⟨document, given, _⟩
      cases held.symm.trans (holds_of_readFile given)
    | true =>
      simp only [Logged.value_after]
      cases readFile tree path with
      | error failure => simp [Logged.silent]
      | ok document => simp [value_ofDocument_eq_ok_iff]

theorem fromFile_eq_ok_iff {tree : FileTree} {path : Path} {declarations : List Value} :
    (fromFile tree path).value = .ok declarations ↔
      ∃ content text document, tree.read path = .ok content ∧ content.readText = .ok text ∧
        Json.read text = .ok document ∧ declarationsOf document path.text = .ok declarations := by
  simp only [fromFile_eq_ok_iff_readFile, readFile_eq_ok_iff]
  constructor
  · rintro ⟨document, ⟨content, text, opened, decoded, parsed⟩, listed⟩
    exact ⟨content, text, document, opened, decoded, parsed, listed⟩
  · rintro ⟨content, text, document, opened, decoded, parsed, listed⟩
    exact ⟨document, ⟨content, text, opened, decoded, parsed⟩, listed⟩

def Response.IsUsable : Response → Prop
  | .answer code body => isErrorCode code = true ∨ ¬Json.Exceeds body
  | .timeout => True
  | .failed _ => True
  | .broken _ _ => False

theorem isReported_readResponse_iff (url : String) (response : Response) :
    IsReported LoadFailure.load (readResponse url response) ↔ response.IsUsable := by
  cases response with
  | answer code body =>
    unfold readResponse Response.IsUsable
    by_cases failing : isErrorCode code = true
    · simp [failing]
    · simp [failing, isReported_readDocument_iff]
  | timeout => simp [readResponse, Response.IsUsable]
  | failed reason => simp [readResponse, Response.IsUsable]
  | broken exception message => simp [readResponse, Response.IsUsable]

theorem isReported_checkUrl_iff (url : String) :
    IsReported LoadFailure.load (checkUrl url) ↔ ∃ valid, isUrl url = .ok valid := by
  unfold checkUrl
  cases isUrl url with
  | error error => simp
  | ok valid => cases valid <;> simp

/-- What is at an address is reported exactly if its host part can be read and, if it is an address
at all, the response to the request can be used. -/
theorem fromUrl_reported_iff (url : String) (response : Response) :
    IsReported LoadFailure.load (fromUrl url response).value ↔
      ∃ valid, isUrl url = .ok valid ∧ (valid = true → response.IsUsable) := by
  have value : IsReported LoadFailure.load (fromUrl url response).value ↔
      IsReported LoadFailure.load (checkUrl url >>= fun _ => readResponse url response) := by
    rw [fromUrl, Logged.value_after]
    split
    · next failed => simp [failed, Logged.silent]
    · next loaded => simp [loaded, isReported_ofDocument]
  rw [value, isReported_bind_iff, isReported_checkUrl_iff, isReported_readResponse_iff]
  unfold checkUrl
  cases isUrl url with
  | error error => simp
  | ok valid => cases valid <;> simp [refused]

end Load

section Settings

open SettingsFile

theorem isReported_ofLayers (layers : List Entries) :
    IsReported SettingsFailure.config (Settings.ofLayers layers) := by
  by_cases made : ∃ settings, Settings.ofLayers layers = .ok settings
  · exact .inl made
  · exact .inr (config_of_ofLayers made)

def settingsIn (path : Path) (document : String) : Except SettingsFailure Entries :=
  match Json.read document with
  | .error (.malformed error) => .error (.config (.invalidJson path error))
  | .error (.exceeding excess) => .error (.exceeding excess)
  | .ok (.object entries) => .ok entries
  | .ok _ => .error (.config (.fileNotObject path))

theorem isReported_settingsIn_iff (path : Path) (document : String) :
    IsReported SettingsFailure.config (settingsIn path document) ↔ ¬Json.Exceeds document := by
  unfold settingsIn Json.Exceeds
  cases Json.read document with
  | ok value => cases value <;> simp
  | error refusal =>
    cases refusal with
    | malformed error => simp
    | exceeding excess => simp

theorem settingsFile_read_of_held {tree : FileTree} {path : Path}
    (held : tree.holds path = .ok true) (named : lower path.suffix = suffix) :
    SettingsFile.read tree path =
      (tree.read path).mapError (refused (.unreadable path)) >>= fun content =>
        content.readText.mapError SettingsFailure.undecodable >>= settingsIn path := by
  simp only [SettingsFile.read, held, named]
  rfl

theorem isReported_settingsFile_iff (tree : FileTree) (path : Path) :
    IsReported SettingsFailure.config (SettingsFile.read tree path) ↔
      ¬(¬path.HasNull ∧ tree.TooLong path) ∧
        (lower path.suffix = suffix →
          ∀ content, tree.read path = .ok content → content.IsUsable) := by
  cases held : tree.holds path with
  | error error =>
    have long := (tree.holds_eq_error_iff path).mp ⟨error, held⟩
    simp [SettingsFile.read, held, isReported_bind_iff, long]
  | ok found =>
    rw [and_iff_right (FileTree.askable_of_holds held)]
    cases found with
    | false =>
      have absent : IsReported SettingsFailure.config (SettingsFile.read tree path) := by
        refine .inr ⟨.fileNotFound path, ?_⟩
        rw [SettingsFile.read, held]
        rfl
      refine iff_of_true absent fun _ content opened => ?_
      cases held.symm.trans (FileTree.holds_of_read opened)
    | true =>
      by_cases named : lower path.suffix = suffix
      · rw [settingsFile_read_of_held held named, imp_iff_right named]
        refine isReported_opened_iff (FileTree.clean_of_holds held)
          (fun cause => ⟨.unreadable path cause, rfl⟩) ?_ (isReported_settingsIn_iff path)
        simp
      · have refused : IsReported SettingsFailure.config (SettingsFile.read tree path) := by
          refine .inr ⟨.fileNotJson path, ?_⟩
          rw [SettingsFile.read, held]
          simp [named, bind, Except.bind]
        exact iff_of_true refused fun same => absurd same named

theorem isReported_load_iff (tree : FileTree) (name : String) :
    IsReported SettingsFailure.config (Settings.load tree .null (some name)) ↔
      name = "" ∨ IsReported SettingsFailure.config (SettingsFile.read tree (.ofText name)) := by
  have further : overrideLayer .null = .ok [] := rfl
  rw [Settings.load, isReported_bind_iff]
  simp only [isReported_bind_iff, further, isReported_ok, isReported_ofLayers, implies_true,
    and_true, SettingsFile.readGiven]
  by_cases empty : name = ""
  · simp [empty]
  · simp [empty]

end Settings

/-- What cannot be used is reported, with an error of loading or of settings, exactly in these cases: a
path can be looked up and the file there, if it is opened at all, holds a text within the limits of
the reader; the host part of an address can be read, and the response to a request for it can be
used. Only documents with many brackets or long numbers are beyond the limits, and only addresses with
brackets or uncommon characters have host parts that cannot be read. -/
theorem reported_iff (tree : FileTree) :
    (∀ path, IsReported Load.LoadFailure.load (Load.fromFile tree path).value ↔
        tree.Offers path) ∧
      (∀ url response, IsReported Load.LoadFailure.load (Load.fromUrl url response).value ↔
        ∃ valid, Load.isUrl url = .ok valid ∧ (valid = true → response.IsUsable)) ∧
      (∀ name, IsReported SettingsFailure.config (Settings.load tree .null (some name)) ↔
        name = "" ∨ ¬(¬(Path.ofText name).HasNull ∧ tree.TooLong (.ofText name)) ∧
          (lower (Path.ofText name).suffix = SettingsFile.suffix →
            ∀ content, tree.read (.ofText name) = .ok content → content.IsUsable)) ∧
      (∀ document, Json.Exceeds document → Json.Strains 0 document.toList) ∧
      ∀ url : String, (∀ c ∈ url.toList, c.toNat < 128 ∧ c ≠ '[' ∧ c ≠ ']') →
        ∃ valid, Load.isUrl url = .ok valid := by
  refine ⟨Load.fromFile_reported_iff tree, Load.fromUrl_reported_iff, fun name => ?_, ?_, ?_⟩
  · rw [isReported_load_iff, isReported_settingsFile_iff]
  · rintro document ⟨excess, exceeds⟩
    exact Json.strains_of_exceeding exceeds
  · exact fun url plain => Load.exists_isUrl_of_plain plain

def bytesTree : FileTree := .ofFiles [("m.json", .bytes [0xff])]

/-- That byte and an open bracket in a host part are not reported. -/
theorem not_reported_byte :
    ¬IsReported Load.LoadFailure.load (Load.fromFile bytesTree (.ofText "m.json")).value ∧
      ¬IsReported Load.LoadFailure.load (Load.fromUrl "http://[x" (.answer 200 "[]")).value ∧
      ¬IsReported SettingsFailure.config (Settings.load bytesTree .null (some "m.json")) := by
  have held : bytesTree.read (.ofText "m.json") = .ok (.bytes [0xff]) := by decide +kernel
  have unusable : ¬Content.IsUsable (.bytes [0xff]) := by
    rw [Content.isUsable_iff]
    rintro ⟨text, decoded, _⟩
    cases decoded
  rw [Load.fromFile_reported_iff, Load.fromUrl_reported_iff, isReported_load_iff,
    isReported_settingsFile_iff]
  refine ⟨fun offers => unusable (offers.usable _ held), ?_, ?_⟩
  · have unbalanced : Load.isUrl "http://[x" = .error .unbalanced := by decide +kernel
    simp [unbalanced]
  · have named : lower (Path.ofText "m.json").suffix = SettingsFile.suffix := by
      decide +kernel
    rintro (empty | ⟨_, usable⟩)
    · exact absurd empty (by decide)
    · exact unusable (usable named _ held)

end SqlScaffold
