import Mathlib.Algebra.Order.Floor.Ring
import Mathlib.Data.Fin.VecNotation
import Mathlib.Data.List.Nodup
import Mathlib.Data.List.ProdSigma
import Mathlib.Data.Rat.Floor
import Mathlib.Tactic.Linarith

set_option autoImplicit false

/-! The placement of the first frame in `webp_decoder.cpp`. -/

namespace VoVe.WebpPlacement

structure Pixel where
 colour : Fin 3 → UInt8
 alpha : UInt8

def Pixel.value (pixel : Pixel) (channel : Fin 3) : ℕ := (pixel.colour channel).toNat

def scaledFloor (value outputExtent sourceExtent : ℕ) : ℕ:=
 value*outputExtent % 2 ^ 64 / sourceExtent % 2 ^ 32

def scaledCeil (value outputExtent sourceExtent : ℕ) : ℕ:=
 (value*outputExtent+sourceExtent - 1) % 2 ^ 64 / sourceExtent % 2 ^ 32

def outputAlpha (destination source : Pixel) : ℕ:=
 source.alpha.toNat+(destination.alpha.toNat*(255 - source.alpha.toNat)+127) / 255

def quotient (destination source : Pixel) (channel : Fin 3) : ℕ:=
 let premultiplied:=source.value channel*source.alpha.toNat*255 +
  destination.value channel*destination.alpha.toNat*(255 - source.alpha.toNat)
 (premultiplied+outputAlpha destination source*127) / (outputAlpha destination source*255)

def compositePixel (destination source : Pixel) : Pixel:=
 if source.alpha = 255 then source
 else if source.alpha = 0 then destination
 else if outputAlpha destination source = 0 then ⟨fun _=>0,0⟩
 else ⟨fun channel=>UInt8.ofNat (quotient destination source channel),
  UInt8.ofNat (outputAlpha destination source)⟩

structure FramePlacement where
 canvasWidth : ℕ
 x : ℕ
 y : ℕ
 width : ℕ
 height : ℕ
 blend : Bool

def readPixel (bytes : List UInt8) (offset : ℕ) : Option Pixel := do
 let red ← bytes[offset]?
 let green ← bytes[offset+1]?
 let blue ← bytes[offset+2]?
 let alpha ← bytes[offset+3]?
 return ⟨![red,green,blue],alpha⟩

def writePixel (bytes : List UInt8) (offset : ℕ) (pixel : Pixel) : List UInt8:=
 (((bytes.set offset (pixel.colour 0)).set (offset+1) (pixel.colour 1)).set (offset+2)
  (pixel.colour 2)).set (offset+3) pixel.alpha

/-- The body of the two loops; `none` is an access outside one of the buffers. -/
def placePixel (placement : FramePlacement) (frame canvas : List UInt8) (cell : ℕ × ℕ):
  Option (List UInt8) := do
 let destinationOffset:=((placement.y+cell.1) % 2 ^ 32*placement.canvasWidth +
  placement.x+cell.2)*4 % 2 ^ 64
 let sourceOffset:=(cell.1*placement.width+cell.2)*4 % 2 ^ 64
 let source ← readPixel frame sourceOffset
 let destination ← readPixel canvas destinationOffset
 return writePixel canvas destinationOffset
  (if placement.blend then compositePixel destination source else source)

/-- Rows and columns in the order of the loops. -/
def cells (placement : FramePlacement) : List (ℕ × ℕ):=
 List.range placement.height ×ˢ List.range placement.width

def placeFrame (placement : FramePlacement) (canvas frame : List UInt8) : Option (List UInt8):=
 (cells placement).foldlM (placePixel placement frame) canvas

/-- One direction of the canvas and of a frame that passed the checks of `decode_impl`. -/
structure Axis where
 canvas : ℕ
 frameStart : ℕ
 frameExtent : ℕ
 output : ℕ
 canvas_lt : canvas<2 ^ 32
 frame_pos : 0<frameExtent
 frame_inside : frameStart+frameExtent ≤ canvas
 output_pos : 0<output
 output_le : output ≤ canvas

namespace Axis

def start (axis : Axis) : ℕ := scaledFloor axis.frameStart axis.output axis.canvas

def stop (axis : Axis) : ℕ:=
 scaledCeil ((axis.frameStart+axis.frameExtent) % 2 ^ 32) axis.output axis.canvas

def decoded (axis : Axis) : ℕ := max 1 ((axis.stop+2 ^ 32 - axis.start) % 2 ^ 32)

/-- The test of the exit for an invalid scaled frame. -/
def invalid (axis : Axis) : Bool := axis.output < (axis.start+axis.decoded) % 2 ^ 32

structure Exact (axis : Axis) : Prop where
 nonempty : axis.start<axis.stop
 inside : axis.stop≤axis.output
 decoded : axis.decoded=axis.stop - axis.start
 valid : axis.invalid=false
 covers : ∀point : ℚ,(axis.frameStart*axis.output / axis.canvas : ℚ)≤point →
  point≤((axis.frameStart+axis.frameExtent)*axis.output / axis.canvas : ℚ) →
  axis.start≤point ∧ point≤axis.stop

lemma exact (axis : Axis) : axis.Exact:=by
 have hlt:=axis.canvas_lt
 have hpos:=axis.frame_pos
 have hinside:=axis.frame_inside
 have hout:=axis.output_pos
 have hle:=axis.output_le
 have hcanvas:0<axis.canvas:=by omega
 have hbound:∀value≤axis.canvas,value*axis.output≤axis.canvas*axis.output:=
  fun value hvalue=>Nat.mul_le_mul_right _ hvalue
 have hsquare:axis.canvas*axis.output≤(2 ^ 32 - 1)*(2 ^ 32 - 1):=
  Nat.mul_le_mul (by omega) (by omega)
 have hfirst:=hbound axis.frameStart (by omega)
 have hlast:=hbound _ hinside
 have hfloor:axis.frameStart*axis.output / axis.canvas≤axis.output:=Nat.div_le_of_le_mul hfirst
 have hstart:axis.start=axis.frameStart*axis.output / axis.canvas:=by
  rw [start,scaledFloor,Nat.mod_eq_of_lt (a := _*_) (by omega),Nat.mod_eq_of_lt (by omega)]
 have hceil:((axis.frameStart+axis.frameExtent)*axis.output+axis.canvas - 1) /
   axis.canvas≤axis.output:=by
  rw [Nat.div_le_iff_le_mul_add_pred hcanvas]
  omega
 have hstop:axis.stop=
   ((axis.frameStart+axis.frameExtent)*axis.output+axis.canvas - 1) / axis.canvas:=by
  rw [stop,scaledCeil,Nat.mod_eq_of_lt (a := axis.frameStart+_) (by omega),
   Nat.mod_eq_of_lt (a := _ - 1) (by omega),Nat.mod_eq_of_lt (by omega)]
 have hlow:axis.start*axis.canvas≤axis.frameStart*axis.output:=by
  rw [hstart]
  exact Nat.div_mul_le_self _ _
 have hhigh:(axis.frameStart+axis.frameExtent)*axis.output≤axis.stop*axis.canvas:=by
  have h:=Nat.lt_div_mul_add hcanvas
   (a := (axis.frameStart+axis.frameExtent)*axis.output+axis.canvas - 1)
  rw [←hstop] at h
  omega
 have hgrow:axis.frameStart*axis.output<(axis.frameStart+axis.frameExtent)*axis.output:=
  Nat.mul_lt_mul_of_pos_right (by omega) hout
 have hnonempty:axis.start<axis.stop:=
  Nat.lt_of_mul_lt_mul_right (lt_of_le_of_lt hlow (lt_of_lt_of_le hgrow hhigh))
 have hinside:axis.stop≤axis.output:=hstop ▸ hceil
 have hdecoded:axis.decoded=axis.stop - axis.start:=by
  rw [Axis.decoded,Nat.sub_add_comm hnonempty.le,Nat.add_mod_right,
   Nat.mod_eq_of_lt (by omega),Nat.max_eq_right (by omega)]
 have hrat:(0 : ℚ)<axis.canvas:=by exact_mod_cast hcanvas
 refine ⟨hnonempty,hinside,hdecoded,?_,?_⟩
 · rw [invalid,decide_eq_false_iff_not,Nat.mod_eq_of_lt (by omega)]
   omega
 · intro point hfrom hto
   constructor
   · refine le_trans ?_ hfrom
     rw [le_div_iff₀ hrat]
     exact_mod_cast hlow
   · refine le_trans hto ?_
     rw [div_le_iff₀ hrat]
     exact_mod_cast hhigh

end Axis

/-! ## One pixel -/

def sourceWeight (s : Pixel) : ℤ := 255*s.alpha.toNat

def destinationWeight (d s : Pixel) : ℤ := d.alpha.toNat*(255 - s.alpha.toNat)

/-- The source-over composite, in parts of `255 * 255` for the alpha. -/
structure SourceOver (d s result : Pixel) : Prop where
 alpha : 2 * |255*(result.alpha.toNat : ℤ) -
  (sourceWeight s+destinationWeight d s)| ≤ 255
 colour : ∀c,min (s.value c) (d.value c) ≤ result.value c ∧
  result.value c ≤ max (s.value c) (d.value c)

/-- What rounding takes from the exact alpha, in parts of `255`. -/
def alphaError (d s : Pixel) : ℤ := destinationWeight d s - 255*((destinationWeight d s+127) / 255)

/-- The error of the alpha moves neither colour past its half step. -/
def Absorbs (low high : ℕ) (lowWeight highWeight error : ℤ) : Prop:=
 255*(high*error - (high - low)*lowWeight) < 128*(lowWeight+highWeight - error) ∧
 -(127*(lowWeight+highWeight - error)) ≤ 255*(low*error+(high - low)*highWeight)

def ChannelAbsorbs (d s : Pixel) (c : Fin 3) : Prop:=
 if s.value c ≤ d.value c then
  Absorbs (s.value c) (d.value c) (sourceWeight s) (destinationWeight d s) (alphaError d s)
 else Absorbs (d.value c) (s.value c) (destinationWeight d s) (sourceWeight s) (alphaError d s)

def Representable (d s : Pixel) : Prop := s.alpha = 0 ∨ s.alpha = 255 ∨ ∀c,ChannelAbsorbs d s c

lemma div_between {low high p alpha : ℤ} (halpha:0<alpha) : low≤(p+alpha*127) / (alpha*255) ∧
  (p+alpha*127) / (alpha*255)≤high ↔
 255*low*alpha≤p+127*alpha ∧ p<255*high*alpha+128*alpha:=by
 rw [Int.le_ediv_iff_mul_le (by omega),←@Int.lt_add_one_iff _ high,
  Int.ediv_lt_iff_lt_mul (by omega)]
 constructor<;>intro h<;>constructor<;>nlinarith [h.1,h.2]

/-- A quotient that does not fit a byte comes back below both colours. -/
lemma narrowed_below {low high : ℕ} {a b e alpha quotient : ℤ}
 (hhigh:high≤255) (hlow:low≤high) (halpha:12≤alpha) (herror:e≤127)
 (hweights:a+b=255*alpha+e) (hleast:e≤a)
 (hsome:0≤a) (hother:0≤b)
 (hquotient:quotient*(alpha*255)≤low*a+high*b+alpha*127)
 (hover:256≤quotient) : quotient<267 ∧ 13≤low:=by
 have hcap:(low : ℤ)*a+high*b≤255*(255*alpha+e) - (255 - low)*a:=by
  have h:(high:ℤ)*b≤255*b:=mul_le_mul_of_nonneg_right (by exact_mod_cast hhigh) hother
  rw [←hweights]
  linarith
 have hpush:(255 - (low : ℤ))*a≤255*e - 128*alpha:=by nlinarith
 have hlow255:(low : ℤ)≤255:=by exact_mod_cast hlow.trans hhigh
 have hdrop:0≤(255 - (low : ℤ))*a:=mul_nonneg (by omega) hsome
 have hpos:(255 - (low : ℤ))*e≤(255 - low)*a:=mul_le_mul_of_nonneg_left hleast (by omega)
 constructor
 · by_contra hlarge
   nlinarith
 · by_contra hsmall
   have hl:(low : ℤ)≤12:=by omega
   nlinarith

lemma narrowed_between {low high result : ℕ} {a b e alpha : ℤ}
 (hhigh:high<256) (hlow:low≤high) (halpha:0<alpha)
 (hweights:a+b=255*alpha+e)
 (herror:0<e → 12≤alpha ∧ e≤127 ∧ e≤a)
 (hsome:0≤a) (hother:0≤b)
 (hresult:(result : ℤ)=(low*a+high*b+alpha*127) / (alpha*255)):
 low ≤ result % 256 ∧ result % 256≤high ↔ Absorbs low high a b e:=by
 have hexact:(low : ℤ) ≤ result ∧ (result : ℤ)≤high ↔ Absorbs low high a b e:=by
  rw [hresult,div_between halpha,Absorbs]
  obtain rfl : e=a+b - 255*alpha:=by omega
  constructor<;>intro h<;>constructor<;>linarith [h.1,h.2]
 rw [←hexact]
 by_cases hfits:result<256
 · rw [Nat.mod_eq_of_lt hfits]
   omega
 · have hquotient:(result : ℤ)*(alpha*255)≤low*a+high*b+alpha*127:=by
    rw [hresult]
    exact Int.ediv_mul_le _ (by omega)
   have hover:256*(alpha*255)≤(result : ℤ)*(alpha*255):=
    mul_le_mul_of_nonneg_right (by omega) (by omega)
   have hcap:∀colour≤high,∀weight : ℤ,0≤weight → colour*weight≤255*weight:=
    fun colour hcolour weight hweight=>mul_le_mul_of_nonneg_right (by omega) hweight
   have hpos:0<e:=by
    have hl:=hcap low hlow _ hsome
    have hh:=hcap high le_rfl _ hother
    omega
   obtain ⟨halpha,hupper,hleast⟩:=herror hpos
   have hbelow:=narrowed_below (by omega) hlow halpha hupper hweights
    hleast hsome hother hquotient (by omega)
   omega

lemma error_pos {s d weight error : ℤ} (hs:0<s) (hs':s<255)
 (hd:0≤d) (hd':d≤255)
 (hweight:weight=d*(255 - s))
 (herror:error=weight - 255*((weight+127) / 255)) (hpos:0<error):
 12 ≤ s+(weight+127) / 255:=by
 have hlarge:weight=255*d - s*d:=by
  rw [hweight]
  ring
 have hnonneg:0 ≤ s*d:=mul_nonneg hs.le hd
 have hproduct:128 ≤ s*d:=by omega
 by_cases hsource:12 ≤ s
 · have : 0≤weight:=hweight ▸ mul_nonneg hd (by omega)
   omega
 · have : 12≤d:=by nlinarith
   have : s*d≤255*s:=by nlinarith
   omega

lemma blended_exact {d s : Pixel} (hzero:s.alpha≠0)
 (hfull:s.alpha≠255):
 SourceOver d s (compositePixel d s) ↔ Representable d s:=by
 have hs:0<s.alpha.toNat:=by
  have:=UInt8.toNat_inj.not.mpr hzero
  simp only [UInt8.toNat_zero] at this
  omega
 have hs':s.alpha.toNat<255:=by
  have:=UInt8.toNat_inj.not.mpr hfull
  have hlt:=s.alpha.toNat_lt
  simp only [UInt8.reduceToNat] at this
  omega
 have hd:=d.alpha.toNat_lt
 have hcast:((255 - s.alpha.toNat : ℕ) : ℤ)=255 - s.alpha.toNat:=by omega
 have hweight:0≤destinationWeight d s:=mul_nonneg (by omega) (by omega)
 have halpha:(outputAlpha d s : ℤ)=s.alpha.toNat+(destinationWeight d s+127) / 255:=by
  rw [outputAlpha,destinationWeight,←hcast]
  push_cast
  rfl
 have hcap:destinationWeight d s≤255*(255 - s.alpha.toNat):=
  mul_le_mul_of_nonneg_right (by omega) (by omega)
 have hfits:outputAlpha d s≤255:=by omega
 have hpos:outputAlpha d s≠0:=by omega
 have herror:0<alphaError d s → 12≤(outputAlpha d s : ℤ) ∧ alphaError d s≤127 ∧
    alphaError d s ≤ sourceWeight s ∧
    alphaError d s≤destinationWeight d s:=by
  intro h
  have hbig:12≤(s.alpha.toNat : ℤ) + (destinationWeight d s+127) / 255:=
   error_pos (by omega) (by omega) (by omega) (by omega) rfl rfl h
  rw [alphaError] at h ⊢
  rw [sourceWeight]
  omega
 have hweights:sourceWeight s+destinationWeight d s=
   255*(outputAlpha d s : ℤ)+alphaError d s:=by
  rw [alphaError,sourceWeight,halpha]
  ring
 have hvalue:∀c,(quotient d s c : ℤ)=(s.value c*sourceWeight s +
    d.value c*destinationWeight d s +
    outputAlpha d s*127) / (outputAlpha d s*255):=by
  intro c
  rw [quotient,sourceWeight,destinationWeight,←hcast]
  push_cast
  ring_nf
 have hcolour:∀c,(min (s.value c) (d.value c)≤quotient d s c % 256 ∧ quotient d s c % 256 ≤
    max (s.value c) (d.value c)) ↔ ChannelAbsorbs d s c:=by
  intro c
  unfold ChannelAbsorbs
  have hbyte:∀pixel : Pixel,pixel.value c<256:=fun _=>UInt8.toNat_lt _
  split_ifs with horder
  · rw [min_eq_left horder,max_eq_right horder]
    exact narrowed_between (hbyte _) horder (by omega) hweights
     (fun h=>⟨(herror h).1,(herror h).2.1,(herror h).2.2.1⟩)
     (by rw [sourceWeight]; omega) hweight (hvalue c)
  · have horder:=(not_le.mp horder).le
    rw [min_eq_right horder,max_eq_left horder]
    apply narrowed_between (hbyte _) horder (by omega) (by rw [add_comm,hweights])
     (fun h=>⟨(herror h).1,(herror h).2.1,(herror h).2.2.2⟩) hweight
     (by rw [sourceWeight]; omega)
    rw [hvalue c,add_comm (_*sourceWeight s)]
 rw [compositePixel,if_neg hfull,if_neg hzero,if_neg hpos]
 constructor
 · intro h
   refine .inr (.inr fun c=>(hcolour c).mp ?_)
   simpa only [Pixel.value,UInt8.toNat_ofNat'] using h.colour c
 · intro h
   refine ⟨?_,fun c=>?_⟩
   swap
   · have hchannel:=(hcolour c).mpr ((h.resolve_left hzero).resolve_left hfull c)
     simpa only [Pixel.value,UInt8.toNat_ofNat'] using hchannel
   rw [UInt8.toNat_ofNat',Nat.mod_eq_of_lt (by omega),hweights,sub_add_cancel_left,abs_neg]
   have hnear:|alphaError d s| ≤ 127:=by
    rw [abs_le,alphaError]
    omega
   omega

lemma composite_exact {d s : Pixel} : SourceOver d s (compositePixel d s) ↔
  Representable d s:=by
 by_cases hfull:s.alpha=255
 · rw [compositePixel,if_pos hfull]
   refine ⟨fun _=>.inr (.inl hfull),fun _=>⟨?_,fun _=>⟨min_le_left _ _,le_max_left _ _⟩⟩⟩
   simp [sourceWeight,destinationWeight,hfull]
 · by_cases hzero:s.alpha=0
   · rw [compositePixel,if_neg hfull,if_pos hzero]
     refine ⟨fun _=>.inl hzero,fun _=>⟨?_,fun _=>⟨min_le_right _ _,le_max_right _ _⟩⟩⟩
     simp [sourceWeight,destinationWeight,hzero,mul_comm]
   · exact blended_exact hzero hfull

/-! ## The frame -/

lemma readPixel_isSome {bytes : List UInt8} {offset : ℕ} (h:offset+4≤bytes.length):
 ∃ pixel,readPixel bytes offset=some pixel:=by
 simp [readPixel,List.getElem?_eq_getElem (show offset<bytes.length by omega),
  List.getElem?_eq_getElem (show offset+1<bytes.length by omega),
  List.getElem?_eq_getElem (show offset+2<bytes.length by omega),
  List.getElem?_eq_getElem (show offset+3<bytes.length by omega)]

lemma length_writePixel (bytes : List UInt8) (offset : ℕ) (pixel : Pixel):
 (writePixel bytes offset pixel).length=bytes.length:=by
 simp [writePixel]

lemma readPixel_write {bytes : List UInt8} {index : ℕ} {pixel : Pixel}
 (h:index*4+4≤bytes.length) (other : ℕ):
 readPixel (writePixel bytes (index*4) pixel) (other*4)=
  if other=index then some pixel else readPixel bytes (other*4):=by
 split_ifs with heq
 · subst heq
   have hcolour:![pixel.colour 0,pixel.colour 1,pixel.colour 2]=pixel.colour:=by
    funext c
    match c with
    | 0 | 1 | 2=>rfl
   simp [readPixel,writePixel,show other*4<bytes.length by omega,
    show other*4+1<bytes.length by omega,show other*4+2<bytes.length by omega,
    show other*4+3<bytes.length by omega,hcolour]
 · have hkeep:∀i<4,(writePixel bytes (index*4) pixel)[other*4+i]? =
     bytes[other*4+i]?:=by
    intro i hi
    rw [writePixel,List.getElem?_set_ne (by omega),List.getElem?_set_ne (by omega),
     List.getElem?_set_ne (by omega),List.getElem?_set_ne (by omega)]
   have hfirst:=hkeep 0 (by omega)
   rw [Nat.add_zero] at hfirst
   rw [readPixel,hfirst,hkeep 1 (by omega),hkeep 2 (by omega),hkeep 3 (by omega),readPixel]

/-- The bytes of `height` rows of `width` pixels, with a size that fits `size_t`. -/
structure Raster (width height : ℕ) where
 bytes : List UInt8
 length_eq : bytes.length=width*height*4
 length_lt : bytes.length<2 ^ 64

def pixelAt (width : ℕ) (bytes : List UInt8) (row column : ℕ) : Option Pixel:=
 readPixel bytes ((row*width+column)*4)

def placement (x y : Axis) (blend : Bool) : FramePlacement:=
 ⟨x.output,x.start,y.start,x.decoded,y.decoded,blend⟩

def put (blend : Bool) (d s : Pixel) : Pixel:=
 if blend then compositePixel d s else s

lemma index_lt {width height row column : ℕ} (hrow:row<height) (hcolumn:column<width):
 (row*width+column)*4+4≤width*height*4:=by
 have h:(row+1)*width≤height*width:=Nat.mul_le_mul_right _ hrow
 rw [Nat.add_one_mul,Nat.mul_comm height] at h
 omega

lemma index_inj {width row column other place : ℕ} (hcolumn:column<width)
 (hplace:place<width) (h:row*width+column=other*width+place):
 row=other ∧ column=place:=by
 have hrow:∀a b,b<width → (a*width+b) / width=a:=by
  intro a b hb
  rw [Nat.mul_comm,Nat.mul_add_div (by omega),Nat.div_eq_of_lt hb,Nat.add_zero]
 have heq:row=other:=by rw [←hrow row column hcolumn,h,hrow other place hplace]
 subst heq
 omega

section
variable {x y : Axis} (blend : Bool) {canvas : List UInt8} (frame : Raster x.decoded y.decoded)

lemma placePixel_spec
 (hcanvas:canvas.length=x.output*y.output*4)
 (hlimit:canvas.length<2 ^ 64) {row column : ℕ} (hrow:row<y.decoded)
 (hcolumn:column<x.decoded):
 ∃ d s,pixelAt x.output canvas (y.start+row)
   (x.start+column)=some d ∧
  pixelAt x.decoded frame.bytes row column=some s ∧
  placePixel (placement x y blend) frame.bytes canvas (row,column)=
   some (writePixel canvas (((y.start+row)*x.output + (x.start+column))*4) (put blend d s)):=by
 have hh:=x.exact
 have hv:=y.exact
 have hright:=hh.decoded ▸ hcolumn
 have hbottom:=hv.decoded ▸ hrow
 have hin:=hh.inside
 have hinside:=hv.inside
 have hlt:=y.canvas_lt
 have hle:=y.output_le
 have hto:=index_lt (show y.start+row<y.output by omega)
  (show x.start+column<x.output by omega)
 have hfrom:=index_lt hrow hcolumn
 obtain ⟨d,hdestination⟩:=readPixel_isSome (hcanvas ▸ hto)
 obtain ⟨s,hsource⟩:=readPixel_isSome (frame.length_eq ▸ hfrom)
 have hframe:=frame.length_lt
 rw [frame.length_eq] at hframe
 have hoffset:((y.start+row) % 2 ^ 32*x.output+x.start +
   column)*4 % 2 ^ 64=((y.start+row)*x.output + (x.start+column))*4:=by
  rw [Nat.mod_eq_of_lt (a := y.start+row) (by omega),Nat.add_assoc (_*_)]
  exact Nat.mod_eq_of_lt (by omega)
 have hread:(row*x.decoded+column)*4 % 2 ^ 64=
   (row*x.decoded+column)*4 := Nat.mod_eq_of_lt (by omega)
 refine ⟨d,s,hdestination,hsource,?_⟩
 simp only [placePixel,placement,hoffset,hread,hsource,hdestination,put,
  Option.bind_eq_bind,Option.bind_some]
 rfl

lemma placeCells_run {list : List (ℕ × ℕ)}
 (hcanvas:canvas.length=x.output*y.output*4)
 (hlimit:canvas.length<2 ^ 64) (hnodup:list.Nodup)
 (hin:∀cell∈list,cell.1<y.decoded ∧ cell.2<x.decoded):
 ∃ after,list.foldlM (placePixel (placement x y blend) frame.bytes) canvas=
   some after ∧ after.length=canvas.length ∧
  (∀row,∀column<x.output, (∀cell∈list,row=y.start+cell.1 → column≠x.start+cell.2) →
   pixelAt x.output after row column=pixelAt x.output canvas row column) ∧
  ∀cell∈list,∃ d s,pixelAt x.output canvas (y.start+cell.1) (x.start+cell.2)=some d ∧
   pixelAt x.decoded frame.bytes cell.1 cell.2=some s ∧
   pixelAt x.output after (y.start+cell.1) (x.start+cell.2)=some (put blend d s):=by
 induction list generalizing canvas with
 | nil=>exact ⟨canvas,rfl,rfl,fun _ _ _ _=>rfl,fun _ h=>(List.not_mem_nil h).elim⟩
 | cons cell rest ih=>
  obtain ⟨hrow,hcolumn⟩:=hin cell List.mem_cons_self
  have hwidth:∀column<x.decoded,x.start+column<x.output:=by
   have hh:=x.exact
   have hdecoded:=hh.decoded
   have hinside:=hh.inside
   omega
  have hheight:y.start+cell.1<y.output:=by
   have hv:=y.exact
   have hdecoded:=hv.decoded
   have hinside:=hv.inside
   omega
  obtain ⟨d,s,hdestination,hsource,hplace⟩:=placePixel_spec blend frame hcanvas hlimit hrow hcolumn
  have hto:=index_lt hheight (hwidth _ hcolumn)
  rw [←hcanvas] at hto
  generalize hnext : writePixel canvas _ _=next at hplace
  have hlength:next.length=canvas.length:=by rw [←hnext,length_writePixel]
  have hpixel:∀row,∀column<x.output,pixelAt x.output next row column=
    if row=y.start+cell.1 ∧ column=x.start+cell.2 then
     some (put blend d s)
    else pixelAt x.output canvas row column:=by
   intro row column hlt
   rw [←hnext,pixelAt,readPixel_write hto]
   refine if_congr ⟨index_inj hlt (hwidth _ hcolumn),?_⟩ rfl rfl
   rintro ⟨rfl,rfl⟩
   rfl
  obtain ⟨after,hrun,hsize,hother,hcells⟩:=ih (hlength.trans hcanvas)
   (hlength ▸ hlimit) (List.nodup_cons.mp hnodup).2 fun other h=>hin other (.tail _ h)
  refine ⟨after,?_,hsize.trans hlength,?_,?_⟩
  · rw [List.foldlM_cons,show cell=(cell.1,cell.2) from rfl,hplace]
    exact hrun
  · intro row column hlt hfree
    rw [hother row column hlt fun other h=>hfree other (.tail _ h),hpixel row column hlt,
     if_neg fun h=>hfree cell List.mem_cons_self h.1 h.2]
  · intro other hother'
    cases hother' with
    | head=>
     refine ⟨d,s,hdestination,hsource,?_⟩
     rw [hother _ _ (hwidth _ hcolumn),hpixel _ _ (hwidth _ hcolumn),if_pos ⟨rfl,rfl⟩]
     intro second hsecond hfirst heq
     apply (List.nodup_cons.mp hnodup).1
     rwa [show cell=second from Prod.ext (by omega) (by omega)]
    | tail _ hrest=>
     obtain ⟨old,new,hold,hnew,hput⟩:=hcells other hrest
     refine ⟨old,new,?_,hnew,hput⟩
     rw [←hold,hpixel _ _ (hwidth _ (hin other (.tail _ hrest)).2),if_neg]
     intro h
     apply (List.nodup_cons.mp hnodup).1
     rwa [show cell=other from Prod.ext (by omega) (by omega)]

end

/-- The rectangle is right and the pass over it composites its pixels and no other. -/
def PlacedExactly (x y : Axis)
  (canvas : Raster x.output y.output)
  (frame : Raster x.decoded y.decoded) (blend : Bool) : Prop:=
 x.Exact ∧ y.Exact ∧ ∃ after,
  placeFrame (placement x y blend) canvas.bytes frame.bytes = some after ∧
  after.length = canvas.bytes.length ∧
  ∀row < y.output,∀column < x.output,
   if y.start ≤ row ∧ row < y.stop ∧ x.start ≤ column ∧ column < x.stop then
    ∃ d s result,pixelAt x.output canvas.bytes row column = some d ∧
     pixelAt x.decoded frame.bytes (row - y.start)
      (column - x.start) = some s ∧
     pixelAt x.output after row column = some result ∧
     if blend then SourceOver d s result else result = s
   else
    pixelAt x.output after row column = pixelAt x.output canvas.bytes row column

theorem frame_placed_iff (x y : Axis)
 (canvas : Raster x.output y.output)
 (frame : Raster x.decoded y.decoded) (blend : Bool):
 PlacedExactly x y canvas frame blend ↔
  (blend=true → ∀row<y.decoded,∀column<x.decoded,∀d s,
    pixelAt x.output canvas.bytes (y.start+row)
     (x.start+column)=some d →
    pixelAt x.decoded frame.bytes row column=some s →
    Representable d s):=by
 have hh:=x.exact
 have hv:=y.exact
 have hright:=hh.decoded
 have hbottom:=hv.decoded
 have hwide:=hh.nonempty
 have htall:=hv.nonempty
 have hin:=hh.inside
 have hinside:=hv.inside
 obtain ⟨after,hrun,hlength,hother,hcells⟩:=
  placeCells_run blend frame canvas.length_eq canvas.length_lt
   (show (cells (placement x y blend)).Nodup from
    List.Nodup.product List.nodup_range List.nodup_range) (by
    intro cell hcell
    rw [cells,List.mem_product,List.mem_range,List.mem_range] at hcell
    exact hcell)
 have hcell:∀row<y.decoded,∀column<x.decoded, (row,column)∈cells (placement x y blend):=
  fun row hrow column hcolumn=>List.mem_product.mpr
   ⟨List.mem_range.mpr hrow,List.mem_range.mpr hcolumn⟩
 constructor
 · rintro ⟨-,-,result,hresult,-,hpixels⟩ rfl row hrow column hcolumn d s
    hdestination hsource
   obtain rfl : after=result:=Option.some_inj.mp (hrun.symm.trans hresult)
   have hpixel:=hpixels (y.start+row) (by omega) (x.start+column) (by omega)
   rw [if_pos (by omega)] at hpixel
   obtain ⟨old,new,value,hold,hnew,hvalue,hover⟩:=hpixel
   rw [Nat.add_sub_cancel_left,Nat.add_sub_cancel_left] at hnew
   obtain ⟨old',new',hold',hnew',hput⟩:=hcells _ (hcell row hrow column hcolumn)
   cases hold.symm.trans hdestination
   cases hnew.symm.trans hsource
   cases hold'.symm.trans hdestination
   cases hnew'.symm.trans hsource
   cases hvalue.symm.trans hput
   exact composite_exact.mp hover
 · intro h
   refine ⟨hh,hv,after,hrun,hlength,?_⟩
   intro row hrow column hcolumn
   by_cases hcovered:y.start ≤ row ∧ row<y.stop ∧ x.start ≤ column ∧ column<x.stop
   · rw [if_pos hcovered]
     have hmem:=hcell (row - y.start) (by omega) (column - x.start) (by omega)
     obtain ⟨d,s,hold,hnew,hput⟩:=hcells _ hmem
     have hfit:=fun hblend=>h hblend (row - y.start) (by omega)
      (column - x.start) (by omega) d s hold hnew
     rw [Nat.add_sub_cancel' hcovered.1,Nat.add_sub_cancel' hcovered.2.2.1] at hold hput
     refine ⟨d,s,_,hold,hnew,hput,?_⟩
     unfold put
     split_ifs with hblend
     · exact composite_exact.mpr (hfit hblend)
     · rfl
   · rw [if_neg hcovered]
     apply hother row column hcolumn
     intro cell hmem
     rw [cells,List.mem_product,List.mem_range,List.mem_range] at hmem
     have hin:cell.1<y.decoded ∧ cell.2<x.decoded:=hmem
     omega

/-- Nearly clear white over half clear white turns black. -/
theorem white_blackened : ∃ axis : Axis,∃ canvas : Raster axis.output axis.output,
 ∃ frame : Raster axis.decoded axis.decoded,¬ PlacedExactly axis axis canvas frame true:=by
 refine ⟨⟨1,0,1,1,by omega,by omega,by omega,by omega,by omega⟩,
  ⟨[255,255,255,128],by decide,by decide⟩,⟨[255,255,255,1],by decide,by decide⟩,?_⟩
 rintro ⟨-,-,after,hafter,-,hpixels⟩
 cases (show some [0,0,0,128]=some after from hafter)
 have hpixel:=hpixels 0 (by decide) 0 (by decide)
 rw [if_pos (by decide)] at hpixel
 obtain ⟨d,s,result,hdestination,hsource,hresult,hover⟩:=hpixel
 cases (show some ⟨![255,255,255],128⟩=some d from hdestination)
 cases (show some ⟨![255,255,255],1⟩=some s from hsource)
 cases (show some ⟨![0,0,0],128⟩=some result from hresult)
 exact absurd (hover.colour 0).1 (by decide)

end VoVe.WebpPlacement
