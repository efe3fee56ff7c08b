import VoVe.BatchRenamePlan

set_option autoImplicit false

/-! The grammar of the name templates of a batch rename. -/

namespace VoVe.NameTemplate
open ByteCodec AsciiText Checks BatchRenamePlan

inductive Token where
 | name
 | counter
 | date
 | time

def Token.text : Token → Bytes
 | name=>utf8 "name"
 | counter=>utf8 "counter"
 | date=>utf8 "date"
 | time=>utf8 "time"

def Token.value (tokens : Tokens) : Token → Bytes
 | name=>tokens.stem
 | counter=>tokens.counter
 | date=>tokens.date
 | time=>tokens.clock

inductive Segment where
 | literal (text : Bytes)
 | token (t : Token)

def doubled (value : UInt8) : Bytes:=
 if value = openBrace ∨ value = closeBrace then [value,value] else [value]

/-- Braces in a literal are doubled, a token stands in single braces. -/
def Segment.render : Segment → Bytes
 | literal text=>text.flatMap doubled
 | token t=>openBrace::(t.text++[closeBrace])

def Segment.value (tokens : Tokens) : Segment → Bytes
 | literal text=>text
 | token t=>t.value tokens

variable {tokens : Tokens} {value : UInt8} {word rest out acc : Bytes}

lemma expand_doubled (value : UInt8) (rest : Bytes):
 expandTemplate tokens none (doubled value++rest)=
  (value :: ·) <$> expandTemplate tokens none rest:=by
 by_cases hbrace:value=openBrace ∨ value=closeBrace
 · rw [doubled,if_pos hbrace]
   simp only [List.cons_append,List.nil_append,expandTemplate,hbrace,and_self,if_true]
   rfl
 · rw [doubled,if_neg hbrace]
   rw [not_or] at hbrace
   cases rest with
   | nil=>
    simp only [List.append_nil,expandTemplate,hbrace.1,hbrace.2,if_false]
    rfl
   | cons next rest=>
    simp only [List.cons_append,List.nil_append,expandTemplate,hbrace.1,hbrace.2,or_self,
     false_and,if_false]
    rfl

lemma expand_literal (text rest : Bytes):
 expandTemplate tokens none (text.flatMap doubled++rest)=
  (text ++ ·) <$> expandTemplate tokens none rest:=by
 induction text with
 | nil=>exact (id_map _).symm
 | cons value text ih=>
  rw [List.flatMap_cons,List.append_assoc,expand_doubled,ih,←comp_map]
  rfl

lemma expand_word (hclean:closeBrace∉word):
 expandTemplate tokens (some acc) (word++closeBrace::rest)=
  found (tokens.find (acc++word)) (.unknownToken,
    utf8 "name template contains an unknown token") >>= fun text =>
   (text++·) <$> expandTemplate tokens none rest:=by
 induction word generalizing acc with
 | nil=>
  rw [List.nil_append,List.append_nil,expandTemplate,if_pos rfl]
  rfl
 | cons value word ih=>
  rw [List.mem_cons,not_or] at hclean
  rw [List.cons_append,expandTemplate,if_neg (Ne.symm hclean.1),ih hclean.2,List.append_assoc]
  rfl

lemma find_token (t : Token) : tokens.find t.text=some (t.value tokens):=by
 cases t<;>rfl

lemma find_sound (h:tokens.find word=some out):
 ∃ t : Token,word=t.text ∧ out=t.value tokens:=by
 unfold Tokens.find at h
 split at h
 · next hname => exact ⟨.name,hname,(Option.some.inj h).symm⟩
 split at h
 · next hcounter => exact ⟨.counter,hcounter,(Option.some.inj h).symm⟩
 split at h
 · next hdate => exact ⟨.date,hdate,(Option.some.inj h).symm⟩
 split at h
 · next htime => exact ⟨.time,htime,(Option.some.inj h).symm⟩
 · contradiction

lemma token_clean (t : Token) : closeBrace∉t.text ∧
 ∃ first word,t.text=first::word ∧ first≠openBrace ∧ first≠closeBrace:=by
 cases t with
 | name=>exact ⟨by decide,_,_,rfl,by decide,by decide⟩
 | counter=>exact ⟨by decide,_,_,rfl,by decide,by decide⟩
 | date=>exact ⟨by decide,_,_,rfl,by decide,by decide⟩
 | time=>exact ⟨by decide,_,_,rfl,by decide,by decide⟩

lemma expand_token (t : Token) (rest : Bytes):
 expandTemplate tokens none ((Segment.token t).render++rest)=
  (t.value tokens++·) <$> expandTemplate tokens none rest:=by
 obtain ⟨hclean,first,word,htext,hopen,-⟩:=token_clean t
 have hword:=@expand_word tokens t.text rest [] hclean
 rw [List.nil_append,find_token] at hword
 have hstep:(Segment.token t).render++rest=openBrace::(t.text++closeBrace::rest):=by
  simp [Segment.render]
 rw [hstep]
 rw [htext] at hword ⊢
 rw [List.cons_append,expandTemplate,if_neg (fun h=>hopen h.2),if_pos rfl]
 exact hword

lemma expand_render (segments : List Segment):
 expandTemplate tokens none (segments.flatMap Segment.render)=
  .ok (segments.flatMap (Segment.value tokens)):=by
 induction segments with
 | nil=>rfl
 | cons segment segments ih=>
  cases segment with
  | literal text=>
   rw [List.flatMap_cons,Segment.render,expand_literal,ih]
   rfl
  | token t=>
   rw [List.flatMap_cons,expand_token,ih]
   rfl

/-- Inside braces the text goes up to a closing brace, and it is the name of a token. -/
lemma expand_open (h:expandTemplate tokens (some acc) rest=.ok out):
 ∃ t word others output,rest=word++closeBrace::others ∧ acc++word=Token.text t ∧
  expandTemplate tokens none others=.ok output ∧ out=t.value tokens++output:=by
 induction rest generalizing acc with
 | nil=>contradiction
 | cons value rest ih=>
  rw [expandTemplate] at h
  split at h
  · next hclose =>
   rw [found_bind_eq_ok] at h
   obtain ⟨text,hfind,h⟩:=h
   rw [bind_eq_ok] at h
   obtain ⟨output,houtput,h⟩:=h
   obtain ⟨t,htoken,rfl⟩:=find_sound hfind
   exact ⟨t,[],rest,output,by rw [hclose]; rfl,by rw [List.append_nil,htoken],houtput,
    (Except.ok.inj h).symm⟩
  · obtain ⟨t,word,others,output,rfl,htoken,houtput,hout⟩:=ih h
    exact ⟨t,value::word,others,output,rfl,by rw [←htoken]; simp,houtput,hout⟩

lemma render_of_expand {text : Bytes} (h:expandTemplate tokens none text=.ok out):
 ∃ segments : List Segment,text=segments.flatMap Segment.render ∧
  out=segments.flatMap (Segment.value tokens):=by
 induction hn : text.length using Nat.strong_induction_on generalizing text out with
 | _ n ih=>
  -- a byte that stands for itself, before a shorter text
  have hbyte {value : UInt8} {others : Bytes} (htext:text=doubled value++others):
    ∃ segments : List Segment,text=segments.flatMap Segment.render ∧
     out=segments.flatMap (Segment.value tokens):=by
   rw [htext,expand_doubled,map_eq_ok] at h
   obtain ⟨output,houtput,rfl⟩:=h
   have hshort:others.length<n:=by
    rw [←hn,htext,List.length_append,doubled]
    split<;>simp
   obtain ⟨segments,hsegments,hvalue⟩:=ih _ hshort houtput rfl
   exact ⟨.literal [value]::segments,by simp [htext,hsegments,Segment.render],
    by simp [hvalue,Segment.value]⟩
  match text with
  | []=>exact ⟨[],rfl,(Except.ok.inj h).symm⟩
  | value::rest=>
   by_cases hplain:value=openBrace ∨ value=closeBrace
   · cases rest with
     | nil=>
      rw [expandTemplate] at h
      obtain rfl | rfl:=hplain
      · contradiction
      · contradiction
     | cons next rest=>
      by_cases hpair:next=value
      · exact @hbyte value rest (by rw [doubled,if_pos hplain,hpair]; rfl)
      · rw [expandTemplate,if_neg fun h=>hpair h.2] at h
        obtain rfl | rfl:=hplain
        · rw [if_pos rfl] at h
          obtain ⟨t,word,others,output,hrest,htoken,houtput,rfl⟩:=expand_open h
          rw [List.nil_append] at htoken
          have hshort:others.length<n:=by
           rw [←hn,List.length_cons,hrest,List.length_append,List.length_cons]
           omega
          obtain ⟨segments,hsegments,hvalue⟩:=ih _ hshort houtput rfl
          exact ⟨.token t::segments,by simp [hrest,hsegments,Segment.render,htoken],
           by simp [hvalue,Segment.value]⟩
        · contradiction
   · exact @hbyte value rest (by rw [doubled,if_neg hplain]; rfl)

section Rows
variable (localtime : ℤ → Option Tm) (source : BatchRenameSource) (options : BatchRenameOptions)
 (index : ℕ)

/-- The counter of a row as an exact number. -/
def rowValue : ℕ := options.counterStart.toNat+index*options.counterStep.toNat

/-- What is asked of the options before a row is looked at. -/
structure Accepted : Prop where
 template : options.nameTemplateUtf8≠[]
 padding : options.counterPadding≠0 ∧ options.counterPadding≤20
 step : options.counterStep≠0

def timestamp : Int64:=
 if options.dateTimeSource = .modified then source.modifiedUnixNs else options.currentUnixNs

def tokensOf (counter : ℕ) (time : Tm) : Tokens where
 stem:=
  (if source.objectKind = .directory then source.path.filename
   else source.path.filename.stem).native
 counter:=appendPadded counter options.counterPadding.toNat
 date:=formatDate time options.dateFormat
 clock:=formatTime time options.timeFormat

variable {options}

lemma step_pos (hstep:options.counterStep≠0) : 0<options.counterStep.toNat:=by
 apply Nat.pos_of_ne_zero
 intro hzero
 exact hstep (UInt64.toNat.inj hzero)

lemma guard_iff (hstep:options.counterStep≠0):
 index>(2 ^ 64-1-options.counterStart.toNat)/options.counterStep.toNat ↔
  2 ^ 64 ≤ rowValue options index:=by
 have hstart:=options.counterStart.toNat_lt
 rw [gt_iff_lt,Nat.div_lt_iff_lt_mul (step_pos hstep),rowValue]
 omega

lemma counterAt_small (hstep:options.counterStep≠0) (h:rowValue options index<2 ^ 64):
 ∃ counter,counterAt options index=some counter ∧ counter.toNat=rowValue options index:=by
 have hguard:=guard_iff index hstep
 refine ⟨_,if_neg fun hover=>?_,?_⟩
 · have:=hguard.mp hover.2
   omega
 · have hindex:=Nat.le_mul_of_pos_right index (step_pos hstep)
   unfold rowValue at h ⊢
   rw [UInt64.toNat_add,UInt64.toNat_mul,UInt64.toNat_ofNat',
    Nat.mod_eq_of_lt (by omega : index<2 ^ 64),
    Nat.mod_eq_of_lt (by omega : index*options.counterStep.toNat<2 ^ 64),Nat.mod_eq_of_lt h]

lemma counterAt_large (hstep:options.counterStep≠0) (h:2 ^ 64 ≤ rowValue options index):
 counterAt options index=none:=
 if_pos ⟨hstep,(guard_iff index hstep).mpr h⟩

theorem template_exact (options : BatchRenameOptions):
 (∀out,expandName localtime source options index=.ok out ↔ Accepted options ∧
  rowValue options index<2 ^ 64 ∧ ∃ time,
   localTime localtime (timestamp source options)=some time ∧
   ∃ segments : List Segment,options.nameTemplateUtf8=segments.flatMap Segment.render ∧
    out=segments.flatMap
     (Segment.value (tokensOf source options (rowValue options index) time))) ∧
 (Accepted options → 2 ^ 64 ≤ rowValue options index → expandName localtime source options index=
   .error (.counterOverflow,utf8 "counter value overflows")):=by
 constructor
 · intro out
   unfold expandName
   simp only [bind_unit_eq_ok,require_eq_ok,found_bind_eq_ok,decide_eq_true_eq]
   constructor
   · rintro ⟨htemplate,hpadding,hstep,counter,hcounter,time,htime,h⟩
     obtain hsmall | hlarge:=Nat.lt_or_ge (rowValue options index) (2 ^ 64)
     case inr =>
      rw [counterAt_large index hstep hlarge] at hcounter
      contradiction
     obtain ⟨value,hvalue,hexact⟩:=counterAt_small index hstep hsmall
     obtain rfl:=Option.some.inj (hvalue.symm.trans hcounter)
     obtain ⟨segments,hsegments,rfl⟩:=render_of_expand h
     rw [hexact]
     exact ⟨⟨htemplate,hpadding,hstep⟩,hsmall,time,htime,segments,hsegments,rfl⟩
   · rintro ⟨haccepted,hsmall,time,htime,segments,hsegments,hout⟩
     obtain ⟨counter,hcounter,hexact⟩:=counterAt_small index haccepted.step hsmall
     refine ⟨haccepted.template,haccepted.padding,haccepted.step,counter,hcounter,time,htime,?_⟩
     rw [hexact,hsegments,expand_render,hout]
     rfl
 · intro h hlarge
   unfold expandName
   rw [counterAt_large index h.step hlarge]
   simp [require,h.template,h.padding,h.step,found]
   rfl

/-- No segment at all is rendered as the empty template, which is refused. -/
theorem empty_template_refused : ¬∀segments : List Segment,∃ out,
 expandName (fun _=>some ⟨126,0,1,0,0,0⟩) ⟨⟨utf8 "/a/b"⟩,0,0,[],.regularFile⟩
  { nameTemplateUtf8:=segments.flatMap Segment.render } 0=.ok out:=by
 intro h
 obtain ⟨out,hout⟩:=h []
 contradiction

end Rows

end VoVe.NameTemplate
