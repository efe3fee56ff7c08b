import VoVe.BatchTransaction

set_option autoImplicit false

namespace VoVe.BatchRenamePlan
open ByteCodec AsciiText PosixPath Checks DestinationFilename FileOperation BatchTransaction

inductive BatchDateTimeSource where
 | modified
 | current
 deriving DecidableEq

inductive BatchDateFormat where
 | yyyyMmDd
 | yyyymmdd
 | ddMmYyyy
 deriving DecidableEq

inductive BatchTimeFormat where
 | hhMm
 | hhmm
 | hhMmSs
 deriving DecidableEq

inductive BatchExtensionMode where
 | preserve
 | replace
 deriving DecidableEq

inductive BatchRenameIssue where
 | none
 | emptySelection
 | mixedDirectories
 | invalidSource
 | invalidTemplate
 | unknownToken
 | counterOverflow
 | invalidName
 | duplicateDestination
 | occupiedDestination
 deriving DecidableEq

structure BatchRenameSource where
 path : Path
 sizeBytes : UInt64 := 0
 modifiedUnixNs : Int64 := 0
 sourceRevisionUtf8 : Bytes := []
 objectKind : OperationObjectKind := .regularFile

structure BatchRenameOptions where
 nameTemplateUtf8 : Bytes := utf8 "\x7bname\x7d_\x7bcounter\x7d"
 counterStart : UInt64 := 1
 counterStep : UInt64 := 1
 counterPadding : UInt8 := 1
 dateTimeSource : BatchDateTimeSource := .modified
 dateFormat : BatchDateFormat := .yyyyMmDd
 timeFormat : BatchTimeFormat := .hhMm
 extensionMode : BatchExtensionMode := .preserve
 replacementExtensionUtf8 : Bytes := []
 currentUnixNs : Int64 := 0

structure BatchRenameRow where
 source : Path
 destination : Path := ⟨[]⟩
 issue : BatchRenameIssue := .none
 detailUtf8 : Bytes := []

structure Plan where
 issue : BatchRenameIssue := .none
 detailUtf8 : Bytes := []
 rows : List BatchRenameRow := []

def Plan.valid (plan : Plan) : Bool := plan.issue = .none

/-- The fields of `std::tm` that are printed. -/
structure Tm where
 year : ℤ
 mon : ℤ
 mday : ℤ
 hour : ℤ
 min : ℤ
 sec : ℤ

def appendPadded (value width : ℕ) : Bytes:=
 let digits:=toChars 10 value
 List.replicate (width - digits.length) 48++digits

def unsignedInt (value : ℤ) : ℕ := (value % 2 ^ 32).toNat

def minus : UInt8 := 45

def formatDate (value : Tm) (format : BatchDateFormat) : Bytes:=
 let year:=appendPadded (unsignedInt (value.year+1900)) 4
 let month:=appendPadded (unsignedInt (value.mon+1)) 2
 let day:=appendPadded (unsignedInt value.mday) 2
 match format with
 | .yyyyMmDd=>year++minus::(month++minus::day)
 | .yyyymmdd=>year++(month++day)
 | .ddMmYyyy=>day++minus::(month++minus::year)

def formatTime (value : Tm) (format : BatchTimeFormat) : Bytes:=
 let hour:=appendPadded (unsignedInt value.hour) 2
 let minute:=appendPadded (unsignedInt value.min) 2
 let second:=appendPadded (unsignedInt value.sec) 2
 match format with
 | .hhMm=>hour++minus::minute
 | .hhmm=>hour++minute
 | .hhMmSs=>hour++minus::(minute++minus::second)

def counterAt (options : BatchRenameOptions) (index : ℕ) : Option UInt64:=
 if options.counterStep≠0 ∧
   index > (2 ^ 64 - 1 - options.counterStart.toNat) / options.counterStep.toNat then none
 else some (options.counterStart+UInt64.ofNat index*options.counterStep)

/-- What the tokens of a template stand for. -/
structure Tokens where
 stem : Bytes
 counter : Bytes
 date : Bytes
 clock : Bytes

def Tokens.find (tokens : Tokens) (token : Bytes) : Option Bytes:=
 if token = utf8 "name" then some tokens.stem
 else if token = utf8 "counter" then some tokens.counter
 else if token = utf8 "date" then some tokens.date
 else if token = utf8 "time" then some tokens.clock
 else none

def openBrace : UInt8 := 123
def closeBrace : UInt8 := 125

/-- Expand a template; `token` holds the text since an unmatched opening brace. -/
def expandTemplate (tokens : Tokens) : Option Bytes → Bytes → Except (BatchRenameIssue × Bytes) Bytes
 | none, []=>pure []
 | some _, []=>
  .error (.invalidTemplate,utf8 "name template contains an unmatched opening brace")
 | none, [value]=>
  if value = openBrace then
   .error (.invalidTemplate,utf8 "name template contains an unmatched opening brace")
  else if value = closeBrace then
   .error (.invalidTemplate,utf8 "name template contains an unmatched closing brace")
  else pure [value]
 | none, value::next::rest=>
  if (value = openBrace ∨ value = closeBrace) ∧ next = value then do
   let output ← expandTemplate tokens none rest
   pure (value::output)
  else if value = openBrace then expandTemplate tokens (some []) (next::rest)
  else if value = closeBrace then
   .error (.invalidTemplate,utf8 "name template contains an unmatched closing brace")
  else do
   let output ← expandTemplate tokens none (next::rest)
   pure (value::output)
 | some token, value::rest=>
  if value = closeBrace then do
   let text ← found (tokens.find token)
    (.unknownToken,utf8 "name template contains an unknown token")
   let output ← expandTemplate tokens none rest
   pure (text++output)
  else expandTemplate tokens (some (token++[value])) rest

section Planning
-- `localtime_r` of the C library, on seconds since the epoch
variable (localtime : ℤ → Option Tm)

def localTime (unixNs : Int64) : Option Tm := localtime (unixNs.toInt.tdiv 1000000000)

variable (source : BatchRenameSource) (options : BatchRenameOptions)

def expandName (index : ℕ) : Except (BatchRenameIssue × Bytes) Bytes := do
 require (options.nameTemplateUtf8≠[]) (.invalidTemplate,utf8 "name template is empty")
 require (options.counterPadding≠0 ∧ options.counterPadding ≤ 20)
  (.invalidTemplate,utf8 "counter padding must be between 1 and 20")
 require (options.counterStep≠0)
  (.invalidTemplate,utf8 "counter step must be at least one")
 let counter ← found (counterAt options index)
  (.counterOverflow,utf8 "counter value overflows")
 let timestamp:=
  if options.dateTimeSource = .modified then source.modifiedUnixNs else options.currentUnixNs
 let time ← found (localTime localtime timestamp)
  (.invalidSource,utf8 "date or time is outside supported range")
 let stem:=
  if source.objectKind = .directory then source.path.filename else source.path.filename.stem
 expandTemplate
  { stem:=stem.native,counter:=appendPadded counter.toNat options.counterPadding.toNat,
    date:=formatDate time options.dateFormat,clock := formatTime time options.timeFormat }
  none options.nameTemplateUtf8

def replacementExtension : Bytes:=
 if source.objectKind = .directory then []
 else if options.extensionMode = .preserve then source.path.extension.native
 else if options.replacementExtensionUtf8 = [] then []
 else dot::options.replacementExtensionUtf8

/-- The name the template gives a source. -/
def generatedName (index : ℕ) : Except (BatchRenameIssue × Bytes) Path := do
 let expanded ← expandName localtime source options index
 pure ⟨expanded++replacementExtension source options⟩

def checkGenerated (generated : Path) : Except (BatchRenameIssue × Bytes) Unit := do
 require (!(source.objectKind = .regularFile ∧ options.extensionMode = .replace ∧
   startsWith options.replacementExtensionUtf8 [dot]))
  (.invalidName,utf8 "replacement extension must not start with a dot")
 (validDestinationFilename generated).mapError fun detail=>(.invalidName,detail)
 require (!isInternalFilename generated.native)
  (.invalidName,utf8 "batch destination uses a reserved VO-VE filename")

variable (parent : Path)

def rowDestination (source : BatchRenameSource) (options : BatchRenameOptions)
  (index : ℕ) : Except (BatchRenameIssue × Bytes) Path := do
 let generated ← generatedName localtime source options index
 checkGenerated source options generated
 pure (if source.path.filename.same generated then source.path else parent / generated)

def markIssue (state : Plan × BatchRenameRow) (mark : BatchRenameIssue × Bytes):
  Plan × BatchRenameRow:=
 let (plan,row) := state
 (if plan.issue = .none then { plan with issue:=mark.1,detailUtf8:=mark.2 } else plan,
  if row.issue = .none then { row with issue:=mark.1,detailUtf8:=mark.2 } else row)

def sourceIdentity : Bytes := stableObjectIdentity source.sourceRevisionUtf8

def sourceMarks (before : List BatchRenameSource) (source : BatchRenameSource):
  List (BatchRenameIssue × Bytes):=
 (if !source.path.isAbsolute || source.path.filename.isEmpty ||
   isInternalFilename source.path.filename.native ||
   (source.objectKind = .directory ∧ source.sizeBytes≠0) then
  [(.invalidSource,utf8 "batch rename source path is invalid")]
 else if !source.path.parentPath.lexicallyNormal.same parent then
  [(.mixedDirectories,utf8 "batch rename sources must share one directory")]
 else []) ++
 (if batchRenameCollisionKey source.path.filename ∈
   before.map (fun other=>batchRenameCollisionKey other.path.filename) then
  [(.invalidSource,utf8 "batch rename contains the same source more than once")]
 else []) ++
 (if sourceIdentity source = [] then
  [(.invalidSource,utf8 "batch rename source has no stable identity")]
 else if sourceIdentity source ∈ before.map sourceIdentity then
  [(.invalidSource,utf8 "batch rename contains two paths to the same physical file")]
 else [])

/-- One turn of the first loop; `before` holds the sources already seen. -/
def planRow (options : BatchRenameOptions) (before : List BatchRenameSource)
  (plan : Plan) (source : BatchRenameSource) : Plan:=
 let marks:=sourceMarks parent before source
 let (plan,row):=
  match rowDestination localtime parent source options before.length with
  | .ok destination=>
   marks.foldl markIssue (plan,{ source:=source.path,destination:=destination })
  | .error mark=>(marks++[mark]).foldl markIssue (plan,{ source:=source.path })
 { plan with rows:=plan.rows++[row] }

def planRows (parent : Path) (options : BatchRenameOptions):
  List BatchRenameSource → Plan → List BatchRenameSource → Plan
 | _, plan, []=>plan
 | before, plan, source::rest=>
  planRows parent options (before++[source])
   (planRow localtime parent options before plan source) rest

def markRow (plan : Plan) (index : ℕ) (mark : BatchRenameIssue × Bytes) : Plan:=
 match plan.rows[index]? with
 | none=>plan
 | some row=>
  let (plan,row) := markIssue (plan,row) mark
  { plan with rows:=plan.rows.set index row }

def destinationKey (row : BatchRenameRow) : Bytes:=
 batchRenameCollisionKey row.destination.filename

def duplicateMark : BatchRenameIssue × Bytes:=
 (.duplicateDestination,utf8 "two batch rows produce the same destination")

/-- One turn of the second loop. -/
def checkDestination (occupiedKeys sourceKeys : List Bytes) (plan : Plan) (index : ℕ) : Plan:=
 match plan.rows[index]? with
 | none=>plan
 | some row=>
  if row.destination.isEmpty then plan
  else
   match (plan.rows.take index).findIdx? fun other =>
     !other.destination.isEmpty && destinationKey other = destinationKey row with
   | some existing=>markRow (markRow plan index duplicateMark) existing duplicateMark
   | none=>
    if destinationKey row ∈ occupiedKeys ∧ destinationKey row ∉ sourceKeys then
     markRow plan index
      (.occupiedDestination,utf8 "batch destination is occupied by an unselected item")
    else plan

variable (sources : List BatchRenameSource)

def sourceKeys : List Bytes := sources.map fun source=>batchRenameCollisionKey source.path.filename

variable (directoryNames : List Path)

def occupiedKeys : List Bytes := directoryNames.map fun name=>batchRenameCollisionKey name.filename

def planBatchRename
  (options : BatchRenameOptions) : Plan:=
 match sources with
 | []=>{ issue:=.emptySelection,detailUtf8:=utf8 "batch rename selection is empty" }
 | first::_=>
  let plan:=planRows localtime first.path.parentPath.lexicallyNormal options [] {} sources
  (List.range plan.rows.length).foldl
   (checkDestination (occupiedKeys directoryNames) (sourceKeys sources)) plan

end Planning

section Marks
variable {mark : BatchRenameIssue × Bytes}

lemma markIssue_none (state : Plan × BatchRenameRow) (hmark:mark.1≠.none):
 (markIssue state mark).1.issue≠.none:=by
 obtain ⟨plan,row⟩:=state
 unfold markIssue
 by_cases h:plan.issue=.none
 · simp only [h,if_true]
   exact hmark
 · simp only [h,if_false]
   exact h

lemma foldl_markIssue_none {marks : List (BatchRenameIssue × Bytes)}
 (hmarks:∀mark∈marks,mark.1≠.none) {state : Plan × BatchRenameRow}
 (h:(marks.foldl markIssue state).1.issue=.none) : marks=[]:=by
 induction marks generalizing state with
 | nil=>rfl
 | cons mark marks ih=>
  have htail:=ih (fun m hm=>hmarks m (List.mem_cons_of_mem _ hm)) h
  rw [List.foldl_cons,htail] at h
  exact absurd h (markIssue_none state (hmarks mark List.mem_cons_self))

lemma markRow_none {plan : Plan} {index : ℕ} (hindex:index<plan.rows.length)
 (hmark:mark.1≠.none) : (markRow plan index mark).issue≠.none:=by
 unfold markRow
 rw [List.getElem?_eq_getElem hindex]
 exact markIssue_none _ hmark

lemma markRow_issue {plan : Plan} {index : ℕ} (h:(markRow plan index mark).issue=.none):
 plan.issue=.none:=by
 by_contra hissue
 revert h
 unfold markRow
 cases plan.rows[index]? with
 | none=>exact hissue
 | some row=>
  simp only [markIssue,hissue,if_false]
  exact id

/-- Computations whose errors are issues. -/
def Refuses {α : Type} (x : Except (BatchRenameIssue × Bytes) α) : Prop:=
 ∀mark,x = .error mark → mark.1≠.none

lemma refuses_require (condition : Bool) {issue : BatchRenameIssue} (detail : Bytes)
 (h:issue≠.none) : Refuses (require condition (issue,detail)):=by
 intro mark hmark
 cases condition with
 | false=>
  cases hmark
  exact h
 | true=>cases hmark

lemma refuses_found {α : Type} (value : Option α) {issue : BatchRenameIssue} (detail : Bytes)
 (h:issue≠.none) : Refuses (found value (issue,detail)):=by
 intro mark hmark
 cases value with
 | none=>
  cases hmark
  exact h
 | some a=>cases hmark

lemma refuses_error {α : Type} {issue : BatchRenameIssue} (detail : Bytes)
 (h:issue≠.none) : Refuses (.error (issue,detail) : Except _ α):=by
 intro mark hmark
 cases hmark
 exact h

lemma refuses_pure {α : Type} (a : α) : Refuses (pure a):=by
 intro mark hmark
 cases hmark

lemma refuses_bind {α β : Type} {x : Except (BatchRenameIssue × Bytes) α}
 {f : α → Except (BatchRenameIssue × Bytes) β} (hx:Refuses x) (hf:∀a,Refuses (f a)):
 Refuses (x >>= f):=by
 intro mark hmark
 cases x with
 | error e=>
  cases hmark
  exact hx mark rfl
 | ok a=>exact hf a mark hmark

lemma expandTemplate_refuses (tokens : Tokens) (token : Option Bytes) (text : Bytes):
 Refuses (expandTemplate tokens token text):=by
 fun_induction expandTemplate tokens token text with
 | case1=>exact refuses_pure _
 | case2=>exact refuses_error _ (by decide)
 | case3=>exact refuses_error _ (by decide)
 | case4=>exact refuses_error _ (by decide)
 | case5=>exact refuses_pure _
 | case6 value next rest h ih=>exact refuses_bind ih fun _=>refuses_pure _
 | case7 next rest h ih=>exact ih
 | case8=>exact refuses_error _ (by decide)
 | case9 value next rest h h' h'' ih=>exact refuses_bind ih fun _=>refuses_pure _
 | case10 token rest ih=>
  exact refuses_bind (refuses_found _ _ (by decide)) fun _ =>
   refuses_bind ih fun _=>refuses_pure _
 | case11 token value rest h ih=>exact ih

variable {localtime : ℤ → Option Tm} {parent : Path} {options : BatchRenameOptions}
 {source : BatchRenameSource}

lemma expandName_refuses (index : ℕ) : Refuses (expandName localtime source options index):=by
 unfold expandName
 refine refuses_bind (refuses_require _ _ (by decide)) fun _=>?_
 refine refuses_bind (refuses_require _ _ (by decide)) fun _=>?_
 refine refuses_bind (refuses_require _ _ (by decide)) fun _=>?_
 refine refuses_bind (refuses_found _ _ (by decide)) fun _=>?_
 refine refuses_bind (refuses_found _ _ (by decide)) fun _=>?_
 exact expandTemplate_refuses _ _ _

lemma checkGenerated_refuses (generated : Path):
 Refuses (checkGenerated source options generated):=by
 unfold checkGenerated
 refine refuses_bind (refuses_require _ _ (by decide)) fun _=>?_
 refine refuses_bind ?_ fun _=>refuses_require _ _ (by decide)
 cases validDestinationFilename generated with
 | ok u=>exact refuses_pure _
 | error detail=>exact refuses_error _ (by decide)

lemma rowDestination_refuses (index : ℕ):
 Refuses (rowDestination localtime parent source options index):=by
 unfold rowDestination
 refine refuses_bind ?_ fun _=>refuses_bind (checkGenerated_refuses _) fun _=>refuses_pure _
 exact refuses_bind (expandName_refuses index) fun _=>refuses_pure _

lemma sourceMarks_issue (before : List BatchRenameSource):
 ∀mark∈sourceMarks parent before source,mark.1≠.none:=by
 intro mark hmark
 simp only [sourceMarks,List.mem_append] at hmark
 obtain (hmark | hmark) | hmark:=hmark
 · split at hmark
   · rw [List.mem_singleton.mp hmark]
     decide
   · split at hmark
     · rw [List.mem_singleton.mp hmark]
       decide
     · cases hmark
 · split at hmark
   · rw [List.mem_singleton.mp hmark]
     decide
   · cases hmark
 · split at hmark
   · rw [List.mem_singleton.mp hmark]
     decide
   · split at hmark
     · rw [List.mem_singleton.mp hmark]
       decide
     · cases hmark

end Marks

end VoVe.BatchRenamePlan
