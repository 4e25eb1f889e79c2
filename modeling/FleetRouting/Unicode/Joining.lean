import FleetRouting.Unicode.Table
/-!
# FleetRouting.Unicode.Joining

**How letters of cursive scripts join their neighbours.**
-/

namespace FleetRouting.Unicode

/-- On which sides a letter joins its neighbours. -/
inductive Joining where
  | toLeft
  | toRight
  | both
  /-- Stands between letters without parting them. -/
  | transparent
  /-- Makes its neighbours join. -/
  | causing
  | never
  deriving DecidableEq, Repr

/-- The ways of joining by their numbers in the table. -/
def Joining.ofNumber : Nat → Joining
  | 0 => .toLeft
  | 1 => .toRight
  | 2 => .both
  | 3 => .transparent
  | _ => .causing

/-- How the characters join that do. -/
def joinings : List Stretch := readTable [
  "lNAD ySjPD oTGD oHhMD BAD BBD BBD BAD iIKD BAD DAC BDB AAC AAB AAC AAB AEC ADB AMC AAE AGC AAB ABC AUD OBC AAD",
  "ACB BCB APC ARB AhFC AAB ABC AIB AAC AAB AAC AAB ABC ABB BAB AGD CFD CBD BDD ABB KCC CAC PAD AAB AAD ACC AEB",
  "ADC AAB AIC AAB AAC AAB AAC AAB ABC AAB AaD CAB AKC ACB AOC ABB ADC AAB AAC ABB ACC ABB AFC hGKD ZhAC AID GAE",
  "CAD YDD BID BCD BED SAB AEC ABB AAC AAB AJC AAB AAC ACB ACD EAC BDC BAB AAC ABB FSB ACE AAC CEC AAB AAC HID",
  "AJC ACB BAB ABC ABB AFC AAB AOC BXD BfD hXAD BAD EHD EAD DGD KBD dAD haAD EDD IAD UBD aAD CBD hZAD EBD EBD CCD",
  "DAD eBD DAD LBD hZAD EED BBD EAD UBD WFD BAD haAD CAD BDD IAD HBD LBD eAD hdAD MAD hSAD DAD hXAD BCD FCD BDD",
  "HBD LBD dAD haAD CAD GAD FBD UBD cBD hZBD EDD IAD UBD dAD iIAD HCD BAD iaAD CGD MHD jCAD CID LGD iJBD bAD BAD",
  "BAD hXND BED BBD FKD BhDD JAD jGDD BFD BBD CBD ZBD ECD QDD NAD CBD GAD PAD 1fCD 9SCD dBD eBD eBD iABD BGD IAD",
  "CKD JAD hJAC CAE ACD BAD QiYC MBD AhBC AAD AAC jVCD EBD JAD GCD mbBD CAD haAD BGD BAD BAD CHD GJD CAD hQhND",
  "CLD UDD hQAD BED BAD FAD hIID MBD hADD CBD BCD hYAD BBD DAD BCD haHD CBD kYCD BMD BGD EAD GAD DBD mGhfD wLAD",
  "BAE ABD aED hRED FFD jAhAD i_eCD kNAD jAfD xKDD jLBD 9uUDD BJD hABD iQBD oQAD DAD EAD ZBD FAD ThRC AAA iRBD",
  "aRD NAD hGHD ZKD hOCD hQAD CDD CBD hHAD iDFD CBD CBD MAD IAD hPAD hTAD BCD CBD FBD BAD hKBD IAD nOAD CAD EAD",
  "z5QAD 3BPD QPD mPAD nZCD wBAD nCAD kVED h0GCD BBD FDD hICD EAD kAEC AAB BAB BBB CAA AEB ADC AAA AEC AAB ACC",
  "AAB CAB ABD EDC AAB kQAC AAB AAC ACB ACC AAB ABC AAB AAC ABB AAC AAB XDB ABC qRAA AhAC AAB AAC ADD iBED pdBD",
  "VAB ABC BBC hSFD hQCC AAB AQC BKD ACC AAB bDC ABB ALC ADD hKAC BBC ACB BAC ABB ABC AAB ABC BAC ABB AAC EAB AAC",
  "AAA hVAD hWOD hJAD CBD KCD hRDD CBD HAD hdCD hEED BHD heAD MBD hUID KDD CAD ifCD CAD BBD GAD CAD kdAD DHD VBD",
  "hZBD DAD hFGD DED iGFD NAD BAD BAD OBD iVHD CCD BAD XAD iUFD BAD EBD BBD nODD GBD BBD bBD iVHD CAD BBD jKAD",
  "BAD CFD BAD jFAD BAD CDD BED oDID BBD oABD BAD EAD kQDD CBD EAD hAJD hIFD CDD IAD JFD CCD hOMD BBD mGAD BCD",
  "BAD mJGD BFD BAD iSVD CGD BBD BBD jaFD DAD BBD BGD BAD iIBD DAD BAD qbBD LBD hUED FAD BAD XAD lmVQD GOD rmILD",
  "DCD iuAED hbGD hgYAD hfDD iRAD zlYBD BDD kychND CWD xACD JPD CGD eDD kUCD h9bhWD EhRD IAD OAD WED BOD hqQGD",
  "BQD CGD BBD BED jEAD lAGD rXAD hdDD vcDD neBD nTAD CAD HBD FAD uaGD hJiDC AHD 4l1VAD eifD kAnPD"]

/-- How a character joins its neighbours. -/
def joining (c : Char) : Joining :=
  match number? joinings c with
  | some n => .ofNumber n
  | none => .never

end FleetRouting.Unicode
