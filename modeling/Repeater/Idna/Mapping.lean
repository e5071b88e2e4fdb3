import Repeater.Idna.Properties

/-!
# The mapping of domain names

What becomes of each code point in a domain name before its labels are encoded: it stays, it
disappears, it is refused, or others take its place.
-/

namespace Repeater.Idna

/-- What becomes of a code point. -/
inductive Fate where
  | stays
  | disappears
  | refused
  | becomes (codes : List Nat)
  deriving DecidableEq, Repr

/-- The runs of fates: `V` stays, `I` disappears, `X` is refused, `P` and `N` move the code point up
or down, and `M` lists what takes its place. -/
@[irreducible] def mappingRuns : Text.Runs := .parse
  "41V 1aP20 25V 20X 1N80 7V 1M20.308 1V 1N49 2V 1I 1V 1M20.304 2V 2N80 1M20.301 1P307 2V 1M20.327
   1N88 1N4b 1V 1M31.2044.34 1M31.2044.32 1M33.2044.34 1V 17P20 1V 7P20 21V 1P1 1V 1P1 1V 1P1 1V
   1P1 1V 1P1 1V 1P1 1V 1P1 1V 1P1 1V 1P1 1V 1P1 1V 1P1 1V 1P1 1V 1P1 1V 1P1 1V 1P1 1V 1P1 1V 1P1
   1V 1P1 1V 1P1 1V 1P1 1V 1P1 1V 1P1 1V 1P1 1V 1P1 1V 1M69.307 1V 2M69.6a 1P1 1V 1P1 2V 1P1 1V
   1P1 1V 1P1 1V 2M6c.b7 1P1 1V 1P1 1V 1P1 1V 1P1 1V 1M2bc.6e 1P1 1V 1P1 1V 1P1 1V 1P1 1V 1P1 1V
   1P1 1V 1P1 1V 1P1 1V 1P1 1V 1P1 1V 1P1 1V 1P1 1V 1P1 1V 1P1 1V 1P1 1V 1P1 1V 1P1 1V 1P1 1V 1P1
   1V 1P1 1V 1P1 1V 1P1 1V 1P1 1V 1N79 1P1 1V 1P1 1V 1P1 1V 1N10c 1V 1Pd2 1P1 1V 1P1 1V 1Pce 1P1
   1V 2Pcd 1P1 2V 1P4f 1Pca 1Pcb 1P1 1V 1Pcd 1Pcf 1V 1Pd3 1Pd1 1P1 3V 1Pd3 1Pd5 1V 1Pd6 1P1 1V 1P1
   1V 1P1 1V 1Pda 1P1 1V 1Pda 2V 1P1 1V 1Pda 1P1 1V 2Pd9 1P1 1V 1P1 1V 1Pdb 1P1 3V 1P1 7V 3M64.17e
   3M6c.6a 3M6e.6a 1P1 1V 1P1 1V 1P1 1V 1P1 1V 1P1 1V 1P1 1V 1P1 1V 1P1 2V 1P1 1V 1P1 1V 1P1 1V
   1P1 1V 1P1 1V 1P1 1V 1P1 1V 1P1 1V 1P1 2V 3M64.7a 1P1 1V 1N61 1N38 1P1 1V 1P1 1V 1P1 1V 1P1 1V
   1P1 1V 1P1 1V 1P1 1V 1P1 1V 1P1 1V 1P1 1V 1P1 1V 1P1 1V 1P1 1V 1P1 1V 1P1 1V 1P1 1V 1P1 1V 1P1
   1V 1P1 1V 1P1 1V 1N82 1V 1P1 1V 1P1 1V 1P1 1V 1P1 1V 1P1 1V 1P1 1V 1P1 1V 1P1 1V 1P1 7V 1P2a2b
   1P1 1V 1Na3 1P2a28 2V 1P1 1V 1Nc3 1P45 1P47 1P1 1V 1P1 1V 1P1 1V 1P1 1V 1P1 61V 1N248 1N4b
   1N248 1N241 1N3b 1N3a 1N35 1N240 1N23f 1fV 1M20.306 1M20.307 1M20.30a 1M20.328 1M20.303
   1M20.30b 2V 1N7d 1N275 1N26f 1N26b 1N4f 5bV 2N40 1V 1N30 1M308.301 1P74 9V 1I 20V 1P1 1V 1P1 1V
   1Nbb 1V 1P1 1V 2X 1M20.3b9 3V 1N343 1P74 4X 1M20.301 1M20.308.301 1P26 1N2d0 3P25 1X 1P40 1X
   2P3f 1V 11P20 1X 9P20 23V 1P8 1N1e 1N19 1Nd 1N6 1N9 1Nf 1N16 1V 1P1 1V 1P1 1V 1P1 1V 1P1 1V 1P1
   1V 1P1 1V 1P1 1V 1P1 1V 1P1 1V 1P1 1V 1P1 1V 1P1 1V 1N36 1N30 1N2f 1V 1N3c 1N40 1V 1P1 1V 1N36
   1P1 2V 3N82 10P50 20P20 30V 1P1 1V 1P1 1V 1P1 1V 1P1 1V 1P1 1V 1P1 1V 1P1 1V 1P1 1V 1P1 1V 1P1
   1V 1P1 1V 1P1 1V 1P1 1V 1P1 1V 1P1 1V 1P1 1V 1P1 9V 1P1 1V 1P1 1V 1P1 1V 1P1 1V 1P1 1V 1P1 1V
   1P1 1V 1P1 1V 1P1 1V 1P1 1V 1P1 1V 1P1 1V 1P1 1V 1P1 1V 1P1 1V 1P1 1V 1P1 1V 1P1 1V 1P1 1V 1P1
   1V 1P1 1V 1P1 1V 1P1 1V 1P1 1V 1P1 1V 1P1 1V 1P1 1V 1Pf 1P1 1V 1P1 1V 1P1 1V 1P1 1V 1P1 1V 1P1
   1V 1P1 2V 1P1 1V 1P1 1V 1P1 1V 1P1 1V 1P1 1V 1P1 1V 1P1 1V 1P1 1V 1P1 1V 1P1 1V 1P1 1V 1P1 1V
   1P1 1V 1P1 1V 1P1 1V 1P1 1V 1P1 1V 1P1 1V 1P1 1V 1P1 1V 1P1 1V 1P1 1V 1P1 1V 1P1 1V 1P1 1V 1P1
   1V 1P1 1V 1P1 1V 1P1 1V 1P1 1V 1P1 1V 1P1 1V 1P1 1V 1P1 1V 1P1 1V 1P1 1V 1P1 1V 1P1 1V 1P1 1V
   1P1 1V 1P1 1V 1P1 1V 1P1 1V 1P1 1V 1P1 1V 1P1 1V 1P1 1V 1P1 1V 1X 26P30 2X 2eV 1M565.582 3V 2X
   3V 1X 37V 8X 1bV 4X 6V 11X 16V 1X 58V 1M627.674 1M648.674 1M6c7.674 1M64a.674 64V 1X 30V 2X 3bV
   2X 65V eX 3bV 2X 31V 2X fV 1X 1cV 2X 1V 1X bV 5X 20V 7X 4bV 1X 75V 1M915.93c 1M916.93c
   1M917.93c 1M91c.93c 1M921.93c 1M922.93c 1M92b.93c 1M92f.93c 24V 1X 8V 2X 2V 2X 16V 1X 7V 1X 1V
   3X 4V 2X 9V 2X 2V 2X 4V 8X 1V 4X 1M9a1.9bc 1M9a2.9bc 1X 1M9af.9bc 4V 2X 19V 2X 3V 1X 6V 4X 2V
   2X 16V 1X 7V 1X 1V 1Ma32.a3c 1X 1V 1Ma38.a3c 1X 2V 2X 1V 1X 5V 4X 2V 2X 3V 3X 1V 7X 1Ma16.a3c
   1Ma17.a3c 1Ma1c.a3c 1V 1X 1Ma2b.a3c 7X 11V aX 3V 1X 9V 1X 3V 1X 16V 1X 7V 1X 2V 1X 5V 2X aV 1X
   3V 1X 3V 2X 1V fX 4V 2X cV 7X 7V 1X 3V 1X 8V 2X 2V 2X 16V 1X 7V 1X 2V 1X 5V 2X 9V 2X 2V 2X 3V
   7X 3V 4X 1Mb21.b3c 1Mb22.b3c 1X 5V 2X 12V aX 2V 1X 6V 3X 3V 1X 4V 3X 2V 1X 1V 1X 2V 3X 2V 3X 3V
   3X cV 4X 5V 3X 3V 1X 4V 2X 1V 6X 1V eX 15V 5X dV 1X 3V 1X 17V 1X 10V 2X 9V 1X 3V 1X 4V 7X 2V 1X
   3V 1X 2V 2X 4V 2X aV 7X 16V 1X 3V 1X 17V 1X aV 1X 5V 2X 9V 1X 3V 1X 4V 7X 2V 5X 3V 1X 4V 2X aV
   1X 3V cX dV 1X 3V 1X 33V 1X 3V 1X 6V 4X 10V 2X 1aV 1X 3V 1X 12V 3X 18V 1X 9V 1X 1V 2X 7V 3X 1V
   4X 6V 1X 1V 1X 8V 6X aV 2X 3V cX 32V 1Me4d.e32 7V 4X 1dV 25X 2V 1X 1V 1X 5V 1X 18V 1X 1V 1X cV
   1Mecd.eb2 aV 2X 5V 1X 1V 1X 7V 1X aV 2X 1Meab.e99 1Meab.ea1 2V 20X cV 1N1 36V 1Mf42.fb7 4V 1X
   4V 1Mf4c.fb7 4V 1Mf51.fb7 4V 1Mf56.fb7 4V 1Mf5b.fb7 cV 1Mf40.fb5 3V 4X 2V 1Mf71.f72 1V
   1Mf71.f74 1Mfb2.f80 1Mfb2.f71.f80 1Mfb3.f80 1Mfb3.f71.f80 7V 1Mf71.f80 11V 1Mf92.fb7 4V 1X 4V
   1Mf9c.fb7 4V 1Mfa1.fb7 4V 1Mfa6.fb7 4V 1Mfab.fb7 cV 1Mf90.fb5 3V 1X fV 1X dV 25X a0V 26P1c60 1X
   1P1c60 5X 1P1c60 2X 2cV 1N20 62V 2I e8V 1X 4V 2X 7V 1X 1V 1X 4V 2X 29V 1X 4V 2X 21V 1X 4V 2X 7V
   1X 1V 1X 4V 2X fV 1X 39V 1X 4V 2X 43V 2X 20V 3X 1aV 6X 56V 2X 6N8 2X 280V 1X 1cV 3X 59V 7X 16V
   9X 18V 9X 14V cX dV 1X 3V 1X 2V cX 34V 2I 28V 2X aV 6X aV 6X bV 5I aV 6X 59V 7X 2bV 5X 46V aX
   1fV 1X cV 4X cV 4X 1V 3X 2aV 2X 5V bX 2cV 4X 1aV 6X bV 3X 3eV 2X 41V 1X 1dV 2X bV 6X aV 6X eV
   2X 2eV 2X cV 14X 4dV 1X a6V 8X 3cV 3X fV 3X 33V 1N184e 1N184d 1N1844 1N1842 2M442 1N183c 1N1824
   1P89c3 1P1 1V 5X 2bNbc0 2X 3Nbc0 8V 8X 2bV 5X 2cV 1N1ccb 1N1c47 1N1ccc 1V 2N1ccc 1N1b55 8N1ccc
   1V 1N1ccd 1N1b1a 1N1cce 1N1ccd 2N1ccc 1N1ccb 1N1ce2 2N1af4 1N44 1N1ce5 2N1ce4 1N1af1 2N1af0
   1N1ce6 1V 1N1ce4 1N1ce3 1N1c06 1N1ce3 1N1aff 2N3e 1N1ce6 2N1ce3 1N3c 1N1aeb 1N1ce5 1N37 3N19ab
   2N199a 1N1cf9 1N1cf1 2N1cef 2N19b4 1N19a7 2N19a3 dV 1N193b 22V 1N1b49 1N1d39 1N1b48 1N1cae
   1N1b43 1N1d3a 1N1b42 1N1b41 1N1b3e 3N1b3c 1N2c 1N1b0b 1N1b3c 1N25 1N1b0c 1N1b3b 1N1b3d 4N1b3c
   1N1b3a 2N1b31 1N1c0a 2N1b2d 1N9c 2N1b2e 1N1d41 3N1b2c 1N1a07 40V 1P1 1V 1P1 1V 1P1 1V 1P1 1V
   1P1 1V 1P1 1V 1P1 1V 1P1 1V 1P1 1V 1P1 1V 1P1 1V 1P1 1V 1P1 1V 1P1 1V 1P1 1V 1P1 1V 1P1 1V 1P1
   1V 1P1 1V 1P1 1V 1P1 1V 1P1 1V 1P1 1V 1P1 1V 1P1 1V 1P1 1V 1P1 1V 1P1 1V 1P1 1V 1P1 1V 1P1 1V
   1P1 1V 1P1 1V 1P1 1V 1P1 1V 1P1 1V 1P1 1V 1P1 1V 1P1 1V 1P1 1V 1P1 1V 1P1 1V 1P1 1V 1P1 1V 1P1
   1V 1P1 1V 1P1 1V 1P1 1V 1P1 1V 1P1 1V 1P1 1V 1P1 1V 1P1 1V 1P1 1V 1P1 1V 1P1 1V 1P1 1V 1P1 1V
   1P1 1V 1P1 1V 1P1 1V 1P1 1V 1P1 1V 1P1 1V 1P1 1V 1P1 1V 1P1 1V 1P1 1V 1P1 1V 1P1 1V 1P1 1V 1P1
   1V 1P1 1V 1P1 1V 1P1 5V 1M61.2be 1N3a 2V 1N1dbf 1V 1P1 1V 1P1 1V 1P1 1V 1P1 1V 1P1 1V 1P1 1V
   1P1 1V 1P1 1V 1P1 1V 1P1 1V 1P1 1V 1P1 1V 1P1 1V 1P1 1V 1P1 1V 1P1 1V 1P1 1V 1P1 1V 1P1 1V 1P1
   1V 1P1 1V 1P1 1V 1P1 1V 1P1 1V 1P1 1V 1P1 1V 1P1 1V 1P1 1V 1P1 1V 1P1 1V 1P1 1V 1P1 1V 1P1 1V
   1P1 1V 1P1 1V 1P1 1V 1P1 1V 1P1 1V 1P1 1V 1P1 1V 1P1 1V 1P1 1V 1P1 1V 1P1 1V 1P1 1V 1P1 1V 1P1
   1V 1P1 9V 8N8 6V 2X 6N8 2X 8V 8N8 8V 8N8 6V 2X 6N8 2X 8V 1X 1N8 1X 1N8 1X 1N8 1X 1N8 8V 8N8 1V
   1N1bc5 1V 1N1bc6 1V 1N1bc7 1V 1N1bc8 1V 1N1bad 1V 1N1bae 1V 1N1baf 2X 1M1f00.3b9 1M1f01.3b9
   1M1f02.3b9 1M1f03.3b9 1M1f04.3b9 1M1f05.3b9 1M1f06.3b9 1M1f07.3b9 1M1f00.3b9 1M1f01.3b9
   1M1f02.3b9 1M1f03.3b9 1M1f04.3b9 1M1f05.3b9 1M1f06.3b9 1M1f07.3b9 1M1f20.3b9 1M1f21.3b9
   1M1f22.3b9 1M1f23.3b9 1M1f24.3b9 1M1f25.3b9 1M1f26.3b9 1M1f27.3b9 1M1f20.3b9 1M1f21.3b9
   1M1f22.3b9 1M1f23.3b9 1M1f24.3b9 1M1f25.3b9 1M1f26.3b9 1M1f27.3b9 1M1f60.3b9 1M1f61.3b9
   1M1f62.3b9 1M1f63.3b9 1M1f64.3b9 1M1f65.3b9 1M1f66.3b9 1M1f67.3b9 1M1f60.3b9 1M1f61.3b9
   1M1f62.3b9 1M1f63.3b9 1M1f64.3b9 1M1f65.3b9 1M1f66.3b9 1M1f67.3b9 2V 1M1f70.3b9 1M3b1.3b9
   1M3ac.3b9 1X 1V 1M1fb6.3b9 2N8 1N4a 1N1c0f 1M3b1.3b9 1M20.313 1N1c05 1M20.313 1M20.342
   1M20.308.342 1M1f74.3b9 1M3b7.3b9 1M3ae.3b9 1X 1V 1M1fc6.3b9 1N56 1N1c1c 1N56 1N1c1d 1M3b7.3b9
   1M20.313.300 1M20.313.301 1M20.313.342 3V 1N1c43 2X 2V 2N8 1N64 1N1c2c 1X 1M20.314.300
   1M20.314.301 1M20.314.342 3V 1N1c33 4V 2N8 1N70 1N1c1e 1N7 1M20.308.300 1M20.308.301 1N1f8f 2X
   1M1f7c.3b9 1M3c9.3b9 1M3ce.3b9 1X 1V 1M1ff6.3b9 1N80 1N1c2d 1N7e 1N1c2d 1M3c9.3b9 1M20.301
   1M20.314 1X bM20 1I 2V 2X 1V 1N1 5V 1M20.333 cV 3X 1V 7X 1N200f 3V 1M2032.2032 1M2032.2032.2032
   1V 1M2035.2035 1M2035.2035.2035 4V 1M21.21 1V 1M20.305 8V 1M3f.3f 1M3f.21 1M21.3f dV
   1M2032.2032.2032.2032 7V 1N203f 5I 5X 6I 1N2040 1N2008 2X 6N2040 1N204f 1P197 1N203f 2N2055
   1N2011 aN2050 1N205f 1P187 1N204f 2N2065 1X 1N202f 1N202c 1N2023 1N201b 1N1e3b 1N202d 4N202b
   1N202a 2N2028 3X 8V 1M72.73 19V eX 21V fX 1M61.2f.63 1M61.2f.73 1N209f 1Mb0.63 1V 1M63.2f.6f
   1M63.2f.75 1N1eac 1V 1Mb0.66 1N20a3 4M68 1N1fe8 2M69 2M6c 1V 1N20a7 1M6e.6f 2V 2N20a9 3M72 2V
   1M73.6d 1M74.65.6c 1M74.6d 1V 1N20aa 1V 1N1d5d 1V 1N20ae 1V 1N20bf 1N2046 2N20ca 1V 2M65 1N20cb
   1P1c 1N20c6 1N20c5 4N1b65 1N20d0 1V 1M66.61.78 1N1d7c 2M3b3 1N1d7f 1Pd1 4V 2M64 1N20e2 2N20df
   6V 1M31.2044.37 1M31.2044.39 1M31.2044.31.30 1M31.2044.33 1M32.2044.33 1M31.2044.35
   1M32.2044.35 1M33.2044.35 1M34.2044.35 1M31.2044.36 1M35.2044.36 1M31.2044.38 1M33.2044.38
   1M35.2044.38 1M37.2044.38 1M31.2044 1N20f7 1M69.69 1M69.69.69 1M69.76 1N20ee 1M76.69 1M76.69.69
   1M76.69.69.69 1M69.78 1N20f1 1M78.69 1M78.69.69 1N2100 2N210a 1N2102 1N2107 1M69.69 1M69.69.69
   1M69.76 1N20fe 1M76.69 1M76.69.69 1M76.69.69.69 1M69.78 1N2101 1M78.69 1M78.69.69 1N2110 2N211a
   1N2112 3V 1P1 5V 1M30.2044.33 2V 4X 9cV 1M222b.222b 1M222b.222b.222b 1V 1M222e.222e
   1M222e.222e.222e f8V 2Pcdf ffV 16X bV 15X 9N242f 1M31.30 1M31.31 1M31.32 1M31.33 1M31.34
   1M31.35 1M31.36 1M31.37 1M31.38 1M31.39 1M32.30 1M28.31.29 1M28.32.29 1M28.33.29 1M28.34.29
   1M28.35.29 1M28.36.29 1M28.37.29 1M28.38.29 1M28.39.29 1M28.31.30.29 1M28.31.31.29
   1M28.31.32.29 1M28.31.33.29 1M28.31.34.29 1M28.31.35.29 1M28.31.36.29 1M28.31.37.29
   1M28.31.38.29 1M28.31.39.29 1M28.32.30.29 14X 1M28.61.29 1M28.62.29 1M28.63.29 1M28.64.29
   1M28.65.29 1M28.66.29 1M28.67.29 1M28.68.29 1M28.69.29 1M28.6a.29 1M28.6b.29 1M28.6c.29
   1M28.6d.29 1M28.6e.29 1M28.6f.29 1M28.70.29 1M28.71.29 1M28.72.29 1M28.73.29 1M28.74.29
   1M28.75.29 1M28.76.29 1M28.77.29 1M28.78.29 1M28.79.29 1M28.7a.29 1aN2455 1aN246f 1N24ba 521V
   1M222b.222b.222b.222b 67V 1M3a.3a.3d 1M3d.3d 1M3d.3d.3d 65V 1M2add.338 97V 2X 8aV 30P30 30V 1P1
   1V 1N29f7 1Nee6 1N29e7 2V 1P1 1V 1P1 1V 1P1 1V 1N2a1c 1N29fd 1N2a1f 1N2a1e 1V 1P1 2V 1P1 6V
   1N2c12 1N2c07 2N2a3f 1P1 1V 1P1 1V 1P1 1V 1P1 1V 1P1 1V 1P1 1V 1P1 1V 1P1 1V 1P1 1V 1P1 1V 1P1
   1V 1P1 1V 1P1 1V 1P1 1V 1P1 1V 1P1 1V 1P1 1V 1P1 1V 1P1 1V 1P1 1V 1P1 1V 1P1 1V 1P1 1V 1P1 1V
   1P1 1V 1P1 1V 1P1 1V 1P1 1V 1P1 1V 1P1 1V 1P1 1V 1P1 1V 1P1 1V 1P1 1V 1P1 1V 1P1 1V 1P1 1V 1P1
   1V 1P1 1V 1P1 1V 1P1 1V 1P1 1V 1P1 1V 1P1 1V 1P1 1V 1P1 1V 1P1 1V 1P1 1V 1P1 1V 1P1 8V 1P1 1V
   1P1 4V 1P1 1V 5X 2dV 1X 1V 5X 1V 2X 38V 7X 1Ne 1V eX 18V 9X 7V 1X 7V 1X 7V 1X 7V 1X 7V 1X 7V 1X
   7V 1X 7V 1X 7eV 22X 1aV 1X 4V 1P3d2e 53V 1P70ac cX 1P1f00 1P1f27 1P1f34 1P1f3c 1P1f55 1P1f80
   1P1f86 1P1f99 1P1fb2 1P2236 1P225b 1P2260 1P2276 1P2289 1P229d 1P22d1 1P22e5 1P22ef 1P2389
   1P23e6 1P2401 1P2405 1P2422 1P242a 1P2444 1P2450 1P2468 1P249b 1P24ac 1P24c6 1P27b9 1P2800
   1P29cb 1P29e1 1P29e8 1P29f2 1P2a03 1P2a4e 1P2c2a 1P2c59 1P2cd0 1P2ce6 1P2cf8 1P2d0d 1P2d42
   1P2d44 1P2ead 1P2eb6 1P2ec1 1P2ecd 1P2f40 1P2f47 1P2f4b 1P2fbf 1P2fc8 1P2fd4 1P2fdb 1P3017
   1P3027 1P3038 1P3087 1P32cb 1P32f8 1P330c 1P35ef 1P35f3 1P3645 1P3654 1P3660 1P3674 1P369a
   1P369e 1P37a8 1P37bf 1P37de 1P3bd5 1P3c16 1P3c2c 1P3c65 1P3c7c 1P3c84 1P3c8a 1P3cbd 1P3cc1
   1P3ce0 1P4116 1P42d4 1P42df 1P42e3 1P42e6 1P42ed 1P42fe 1P42ff 1P434f 1P4426 1P442a 1P457c
   1P4585 1P45b6 1P45bc 1P45c4 1P45cb 1P4625 1P462b 1P470e 1P4714 1P4744 1P4754 1P4782 1P486e
   1P4874 1P4884 1P49ca 1P4a47 1P4a4c 1P4b01 1P4b57 1P4b84 1P4cfd 1P4d81 1P4fbe 1P4fd8 1P5010
   1P5042 1P5085 1P508f 1P5094 1P50b4 1P50ff 1P5108 1P5261 1P5267 1P526f 1P5277 1P5286 1P5294
   1P5297 1P52e5 1P52e8 1P52ed 1P56c1 1P56de 1P58b2 1P58bd 1P58d3 1P59ed 1P59f9 1P5a3f 1P5a6c
   1P5ca2 1P5cb0 1P5cbe 1P5ce0 1P5d04 1P5dca 1P5dd5 1P5e17 1P5f0e 1P5f2c 1P5ffc 1P6010 1P6014
   1P60ef 1P61a6 1P6222 1P6227 1P622b 1P65d0 1P65d8 1P6673 1P670c 1P670e 1P673c 1P67a4 1P67b0
   1P67b3 1P67b9 1P681a 1P683b 1P6840 1P684d 1P68f3 1P6925 1P6928 1P69de 1P69e0 1P69f2 1P6aed
   1P6b1c 1P6b22 1P6b67 1P6b70 1P6b72 1P6b7b 1P6b98 1P6d22 1P6eb1 1P6eba 1P6edf 1P6ef4 1P6efb
   1P6f04 1P6f07 1P6f2e 1P6f31 1P6f41 1P6f45 1P6f51 1P6f6b 1P6f79 1P6f80 1P6fba 1P6fc8 1P6fcb 2aX
   1N2fe0 1V 1N2fd4 33V 1N24 1V 1P2309 2P230b 5V 1X 56V 2X 2V 1M20.3099 1M20.309a 2V 1M3088.308a
   5fV 1M30b3.30c8 5X 2bV 1X 2N2031 1N1f89 1N2032 2N1f89 3N2034 6N1f8a 1N2026 3N203b 1N2023 aN203c
   15N1fee 1I 2N2051 2N1fa0 1N1f9d 1N1f9c 1N1f98 1N1f95 1N1f94 1N2052 1N1f92 1N1f91 2N2054 1N2053
   2N2052 1N204f 1N204e 5N204d 1N204b 1N2048 1N203f 1N2039 1N2035 2N1f91 3N202d 2N2003 1N2001
   2N1ff9 1N1ff8 1N1fef 1N1fed 1X 2V 1P1c6e 1P1cf9 1P1c75 1P2546 1P1c74 1P1c96 1P1c73 1P4399
   1P1cbf 1P1c7e 1P1c65 1P278c 1P2592 1P1d1b 46V aX 10V 1M28.1100.29 1M28.1102.29 1M28.1103.29
   1M28.1105.29 1M28.1106.29 1M28.1107.29 1M28.1109.29 1M28.110b.29 1M28.110c.29 1M28.110e.29
   1M28.110f.29 1M28.1110.29 1M28.1111.29 1M28.1112.29 1M28.ac00.29 1M28.b098.29 1M28.b2e4.29
   1M28.b77c.29 1M28.b9c8.29 1M28.bc14.29 1M28.c0ac.29 1M28.c544.29 1M28.c790.29 1M28.cc28.29
   1M28.ce74.29 1M28.d0c0.29 1M28.d30c.29 1M28.d558.29 1M28.c8fc.29 1M28.c624.c804.29
   1M28.c624.d6c4.29 1X 1M28.4e00.29 1M28.4e8c.29 1M28.4e09.29 1M28.56db.29 1M28.4e94.29
   1M28.516d.29 1M28.4e03.29 1M28.516b.29 1M28.4e5d.29 1M28.5341.29 1M28.6708.29 1M28.706b.29
   1M28.6c34.29 1M28.6728.29 1M28.91d1.29 1M28.571f.29 1M28.65e5.29 1M28.682a.29 1M28.6709.29
   1M28.793e.29 1M28.540d.29 1M28.7279.29 1M28.8ca1.29 1M28.795d.29 1M28.52b4.29 1M28.4ee3.29
   1M28.547c.29 1M28.5b66.29 1M28.76e3.29 1M28.4f01.29 1M28.8cc7.29 1M28.5354.29 1M28.796d.29
   1M28.4f11.29 1M28.81ea.29 1M28.81f3.29 1P230b 1P2c37 1P3341 1P4948 8V 1M70.74.65 1M32.31
   1M32.32 1M32.33 1M32.34 1M32.35 1M32.36 1M32.37 1M32.38 1M32.39 1M33.30 1M33.31 1M33.32 1M33.33
   1M33.34 1M33.35 1N2160 2N215f 3N215e 1N215d 2N215c 5N215b 1P7992 1P7e29 1P8074 1P850b 1P8756
   1P89a1 1P8e38 1P92cf 1P951a 1P99b1 1P9bfc 1P9e47 1Pa092 1Pa2dd 1Mcc38.ace0 1Mc8fc.c758 1P9432
   1V 1P1b80 1P1c0b 1P1b87 1P2458 1P1c10 1P1ee8 1P1b7d 1P1ee4 1P1bd5 1P20b8 1P347e 1P3de0 1P39a8
   1P349b 1P5f43 1P2490 1P3355 1P3599 1P3477 1P46ab 1P2179 1P3fe4 1P5a0b 1P46c6 1P201c 1P473f
   1P429d 1P26d8 1P5dcd 1P1e8d 1P20d2 1P3a49 1P6565 1P1c70 1P1ef7 1P38c0 1P1b66 1P1b88 1P1b65
   1P2b3f 1P214b 1P2092 1P28ed 1P28bb 1P4437 1P1c54 1P5a19 1P20a5 1P266c 1M33.36 1M33.37 1M33.38
   1M33.39 1M34.30 1M34.31 1M34.32 1M34.33 1M34.34 1M34.35 1M34.36 1M34.37 1M34.38 1M34.39 1M35.30
   1M31.6708 1M32.6708 1M33.6708 1M34.6708 1M35.6708 1M36.6708 1M37.6708 1M38.6708 1M39.6708
   1M31.30.6708 1M31.31.6708 1M31.32.6708 1M68.67 1M65.72.67 1M65.76 1M6c.74.64 1N22e 1N22d 1N22c
   1N22b 2N22a 1N229 1N228 1N227 1N226 1N225 1N224 1N223 1N222 1N221 1N220 1N21f 1N21d 1N21c 1N21b
   6N21a 1N218 1N216 1N214 1N212 5N210 1N20f 1N20e 6N20d 4N20c 1M4ee4.548c 1M30a2.30d1.30fc.30c8
   1M30a2.30eb.30d5.30a1 1M30a2.30f3.30da.30a2 1M30a2.30fc.30eb 1M30a4.30cb.30f3.30b0
   1M30a4.30f3.30c1 1M30a6.30a9.30f3 1M30a8.30b9.30af.30fc.30c9 1M30a8.30fc.30ab.30fc
   1M30aa.30f3.30b9 1M30aa.30fc.30e0 1M30ab.30a4.30ea 1M30ab.30e9.30c3.30c8 1M30ab.30ed.30ea.30fc
   1M30ac.30ed.30f3 1M30ac.30f3.30de 1M30ae.30ac 1M30ae.30cb.30fc 1M30ad.30e5.30ea.30fc
   1M30ae.30eb.30c0.30fc 1M30ad.30ed 1M30ad.30ed.30b0.30e9.30e0 1M30ad.30ed.30e1.30fc.30c8.30eb
   1M30ad.30ed.30ef.30c3.30c8 1M30b0.30e9.30e0 1M30b0.30e9.30e0.30c8.30f3
   1M30af.30eb.30bc.30a4.30ed 1M30af.30ed.30fc.30cd 1M30b1.30fc.30b9 1M30b3.30eb.30ca
   1M30b3.30fc.30dd 1M30b5.30a4.30af.30eb 1M30b5.30f3.30c1.30fc.30e0 1M30b7.30ea.30f3.30b0
   1M30bb.30f3.30c1 1M30bb.30f3.30c8 1M30c0.30fc.30b9 1M30c7.30b7 1M30c9.30eb 1M30c8.30f3
   1M30ca.30ce 1M30ce.30c3.30c8 1M30cf.30a4.30c4 1M30d1.30fc.30bb.30f3.30c8 1M30d1.30fc.30c4
   1M30d0.30fc.30ec.30eb 1M30d4.30a2.30b9.30c8.30eb 1M30d4.30af.30eb 1M30d4.30b3 1M30d3.30eb
   1M30d5.30a1.30e9.30c3.30c9 1M30d5.30a3.30fc.30c8 1M30d6.30c3.30b7.30a7.30eb 1M30d5.30e9.30f3
   1M30d8.30af.30bf.30fc.30eb 1M30da.30bd 1M30da.30cb.30d2 1M30d8.30eb.30c4 1M30da.30f3.30b9
   1M30da.30fc.30b8 1M30d9.30fc.30bf 1M30dd.30a4.30f3.30c8 1M30dc.30eb.30c8 1M30db.30f3
   1M30dd.30f3.30c9 1M30db.30fc.30eb 1M30db.30fc.30f3 1M30de.30a4.30af.30ed 1M30de.30a4.30eb
   1M30de.30c3.30cf 1M30de.30eb.30af 1M30de.30f3.30b7.30e7.30f3 1M30df.30af.30ed.30f3 1M30df.30ea
   1M30df.30ea.30d0.30fc.30eb 1M30e1.30ac 1M30e1.30ac.30c8.30f3 1M30e1.30fc.30c8.30eb
   1M30e4.30fc.30c9 1M30e4.30fc.30eb 1M30e6.30a2.30f3 1M30ea.30c3.30c8.30eb 1M30ea.30e9
   1M30eb.30d4.30fc 1M30eb.30fc.30d6.30eb 1M30ec.30e0 1M30ec.30f3.30c8.30b2.30f3 1M30ef.30c3.30c8
   1M30.70b9 1M31.70b9 1M32.70b9 1M33.70b9 1M34.70b9 1M35.70b9 1M36.70b9 1M37.70b9 1M38.70b9
   1M39.70b9 1M31.30.70b9 1M31.31.70b9 1M31.32.70b9 1M31.33.70b9 1M31.34.70b9 1M31.35.70b9
   1M31.36.70b9 1M31.37.70b9 1M31.38.70b9 1M31.39.70b9 1M32.30.70b9 1M32.31.70b9 1M32.32.70b9
   1M32.33.70b9 1M32.34.70b9 1M68.70.61 1M64.61 1M61.75 1M62.61.72 1M6f.76 1M70.63 1M64.6d
   1M64.6d.32 1M64.6d.33 1M69.75 1M5e73.6210 1M662d.548c 1M5927.6b63 1M660e.6cbb
   1M682a.5f0f.4f1a.793e 1M70.61 1M6e.61 1M3bc.61 1M6d.61 1M6b.61 1M6b.62 1M6d.62 1M67.62
   1M63.61.6c 1M6b.63.61.6c 1M70.66 1M6e.66 1M3bc.66 1M3bc.67 1M6d.67 1M6b.67 1M68.7a 1M6b.68.7a
   1M6d.68.7a 1M67.68.7a 1M74.68.7a 1M3bc.6c 1M6d.6c 1M64.6c 1M6b.6c 1M66.6d 1M6e.6d 1M3bc.6d
   1M6d.6d 1M63.6d 1M6b.6d 1M6d.6d.32 1M63.6d.32 1M6d.32 1M6b.6d.32 1M6d.6d.33 1M63.6d.33 1M6d.33
   1M6b.6d.33 1M6d.2215.73 1M6d.2215.73.32 1M70.61 1M6b.70.61 1M6d.70.61 1M67.70.61 1M72.61.64
   1M72.61.64.2215.73 1M72.61.64.2215.73.32 1M70.73 1M6e.73 1M3bc.73 1M6d.73 1M70.76 1M6e.76
   1M3bc.76 1M6d.76 1M6b.76 1M6d.76 1M70.77 1M6e.77 1M3bc.77 1M6d.77 1M6b.77 1M6d.77 1M6b.3c9
   1M6d.3c9 1X 1M62.71 1M63.63 1M63.64 1M63.2215.6b.67 1X 1M64.62 1M67.79 1M68.61 1M68.70 1M69.6e
   1M6b.6b 1M6b.6d 1M6b.74 1M6c.6d 1M6c.6e 1M6c.6f.67 1M6c.78 1M6d.62 1M6d.69.6c 1M6d.6f.6c
   1M70.68 1X 1M70.70.6d 1M70.72 1M73.72 1M73.76 1M77.62 1M76.2215.6d 1M61.2215.6d 1M31.65e5
   1M32.65e5 1M33.65e5 1M34.65e5 1M35.65e5 1M36.65e5 1M37.65e5 1M38.65e5 1M39.65e5 1M31.30.65e5
   1M31.31.65e5 1M31.32.65e5 1M31.33.65e5 1M31.34.65e5 1M31.35.65e5 1M31.36.65e5 1M31.37.65e5
   1M31.38.65e5 1M31.39.65e5 1M32.30.65e5 1M32.31.65e5 1M32.32.65e5 1M32.33.65e5 1M32.34.65e5
   1M32.35.65e5 1M32.36.65e5 1M32.37.65e5 1M32.38.65e5 1M32.39.65e5 1M33.30.65e5 1M33.31.65e5
   1M67.61.6c 708dV 3X 37V 9X 15cV 14X 1P1 1V 1P1 1V 1P1 1V 1P1 1V 1P1 1V 1P1 1V 1P1 1V 1P1 1V 1P1
   1V 1P1 1V 1P1 1V 1P1 1V 1P1 1V 1P1 1V 1P1 1V 1P1 1V 1P1 1V 1P1 1V 1P1 1V 1P1 1V 1P1 1V 1P1 1V
   1P1 13V 1P1 1V 1P1 1V 1P1 1V 1P1 1V 1P1 1V 1P1 1V 1P1 1V 1P1 1V 1P1 1V 1P1 1V 1P1 1V 1P1 1V 1P1
   1V 1P1 1V 1Na252 1Na251 5aV 8X 22V 1P1 1V 1P1 1V 1P1 1V 1P1 1V 1P1 1V 1P1 1V 1P1 3V 1P1 1V 1P1
   1V 1P1 1V 1P1 1V 1P1 1V 1P1 1V 1P1 1V 1P1 1V 1P1 1V 1P1 1V 1P1 1V 1P1 1V 1P1 1V 1P1 1V 1P1 1V
   1P1 1V 1P1 1V 1P1 1V 1P1 1V 1P1 1V 1P1 1V 1P1 1V 1P1 1V 1P1 1V 1P1 1V 1P1 1V 1P1 1V 1P1 1V 1P1
   1V 1P1 1V 1P1 1V 1N1 8V 1P1 1V 1P1 1V 1N8a04 1P1 1V 1P1 1V 1P1 1V 1P1 1V 1P1 4V 1P1 1V 1Na528
   2V 1P1 1V 1P1 3V 1P1 1V 1P1 1V 1P1 1V 1P1 1V 1P1 1V 1P1 1V 1P1 1V 1P1 1V 1P1 1V 1P1 1V 1Na544
   1Na54f 1Na54b 1Na541 1Na544 1V 1Na512 1Na52a 1Na515 1P3a0 1P1 1V 1P1 1V 1P1 1V 1P1 1V 1P1 1V
   1P1 1V 1P1 1V 1P1 1V 1N30 1Na543 1N8a38 1P1 1V 1P1 1V 1Na567 1P1 1V 1P1 1V 1P1 1V 1P1 1V 1P1 1V
   1P1 1V 1P1 1V 1P1 1V 1Na641 14X 1Na77e 1Na78f 1Na78d 1Na783 1P1 2V 1Na6d1 1Na6a6 33V 3X aV 6X
   38V 8X 46V 8X cV 6X 74V bX 1eV 3X 4eV 1X bV 4X 21V 1X 37V 9X eV 2X aV 2X 67V 18X 1cV aX 6V 2X
   6V 2X 6V 9X 7V 1X 7V 1X 2cV 1N435 1N26 1Na8f3 1Nd 9V 1Na8dc 2V 4X 50N97d0 2eV 2X aV 6X 2ba4V cX
   17V 4X 31V 2104X 1N6cb8 1N920d 1N6a38 1N6c3b 1N8a33 1Naad3 1Na521 2M9f9c 1N9fb8 1N6739 1Na384
   1N9fc4 1N9717 1N82a5 1N798a 1N72d1 1N7157 1N701a 1N6884 1N8f12 1N8bfa 1N883d 1N8539 1N74db
   1N67af 1N5f29 1Naa99 1Na5a7 1N8e19 1N8703 1N72f2 1N5b02 1N9bd1 1N8937 1N7356 1N6fc0 1N965c
   1N774e 1N7108 1N9a5e 1N9212 1N8bc0 1N862f 1N685e 1Na9a7 1Na777 1Na651 1N946c 1N8e5e 1N8722
   1N824c 1N7933 1N732f 1N72da 1N6b48 1N6206 1N5dca 1N5b40 1N80af 1N7fbd 1N7b9d 1N7575 1N663b
   1N5ac1 1N6e6b 1Na063 1N9a3f 1N7ce4 1N78c7 1N86e4 1N807d 1N6c86 1N6252 1Na072 1N9ce9 1N8f39
   1N8b73 1N8a3f 1N7c20 1N7b19 1N6306 1Na680 1N78c8 1Na778 1Na789 1N7f3a 1N7b99 1N7567 1N62e4
   1N6dda 1N968c 1N8f5a 1N6e5f 1Nab25 1N9d78 1N994e 1N85da 1N83f2 1Na64c 1N8069 1Na9a6 1N99bd
   1Nab5a 1N8c9c 1N93f1 1N7c48 1Na5a8 1Na10e 1N826c 1N7525 1N6ec5 1N8db6 1N69c1 1N8cea 1N9675
   1N768f 1N95d5 1N8411 1Naac9 1Na80f 1Na7b0 1N90f9 1N7c94 1N770d 1N6eab 1N67af 1Na68a 1Na53e
   1Na00e 1N9a96 1N93be 1N8986 1N805b 1N63d9 1N5f1d 1N5af1 1N5abb 1Na6ef 1N92c5 1N8e15 1N6a2b
   1N9b1a 1N97ff 1N9790 1N94f7 1N8a6f 1N884a 1N850b 1N7fcb 1N7ba2 1N7928 1N6a72 1N74ab 1N6977
   1N6651 1Na785 1Na6fa 1Na4e1 1N88d7 1N70de 1N6ef7 1N9ad9 1N99ae 1N9629 1N8df7 1N7d68 1N8632
   1Naac4 1Na2b0 1N9dc3 1N9bf1 1N9990 1N85fb 1N8545 1N7a15 1N796a 1N677d 1N62bc 1N626b 1N619c
   1Naa2a 1N8008 1N6803 1N6300 1N98d8 1Nab34 1Na8e1 1N9dce 1N9d7e 1N9425 1N8fbd 1N87f2 1N837f
   1N74c6 1N6947 1N5a37 1N933d 1N6398 1Na73e 1N924d 1N91d6 1N8c89 1N8b2f 1N85c3 1N8474 1N8163
   1N7cbf 1N6172 1Na864 1N97a4 1N635b 1Na9a9 1N9cbc 1N8bec 1N6aad 1N9a4d 1N9895 1N91c3 1N8654
   1N6356 1Na7b4 1Na5cf 1N9d7a 1N93cd 1N9293 1N913a 1N8cfe 1N85de 1N8403 1N7a6d 1N7118 1N7107
   1N681d 1N6308 1Na6ac 1N8b32 1Na5d0 1N881e 1N8557 1N73f6 1N634e 1N5d9b 1N5b54 1N925d 1N8c2a
   1N780e 1N7f2c 1N7ed8 1N7d67 1N873a 1N8962 1N6ea4 1Nab3d 1N76c8 1Na7c5 1Na7f9 1N9b5b 1N972f
   1N7d2d 1N9e7f 1N8ce7 1N9352 1N6acc 1N71bc 1N63bc 1N707f 1N9b38 1Na8cc 1Na44d 2V 1Na1b6 1V
   1N939e 2V 1Na837 1N86ec 1N834d 1N80dc 1N80bb 1N80b5 1N808c 1N62c6 1N7d5f 1N7a61 1V 1N740e 1V
   1N6f2a 2V 1N69ed 1N6929 3V 1N613b 1N612f 1N6104 1N5c79 1N6950 1N6378 1Naa82 1Na94a 1Na8e5
   1Na76a 1Na750 1Na6e4 1Na499 1Na431 1Na3d0 1Na1f9 1Na192 1N9dd7 1N9dce 1N99a9 1N98d6 1N98b1
   1N984e 1N94f2 1N9460 1N93b2 1N91bf 1N8cce 1N8c2c 1N8b25 1N88da 1N881e 1N8628 1N81ba 1N810e
   1N8104 1N8106 1N80ff 1N80fa 1N80f4 2N80c5 1N8014 1N7fd4 1N7e96 1N7c63 1N7c4f 1N7c18 1N7ae8
   1N7a56 1N786f 2M8279 1N7608 1N7150 1N70cb 1N6f61 1N6f2a 1N6d91 1N6d5d 1N6ab0 1N6a2f 1N6385
   1N626a 1N622f 1N99f6 1P14882 1N7855 2X 1Nac4a 1Na8bc 1Na90a 1Naaf3 1Na92f 1Na8f5 1Na7af 1Na77d
   1Na4db 1Na524 1Na4e1 1Na499 1Na222 1Na1ca 1Na13a 1Na12b 1Na01e 1N9f59 1N9bb0 1N9baa 1N9b1b
   1N9ad8 1N99ae 1N9939 1N9980 1N98fb 1N992a 1N9899 1N9858 1N96c9 1N9672 1N963d 1N953a 1N941d
   1N937b 1N9378 1N933e 1N8f1c 1N8edc 1N8d56 1N8bbd 1N8bce 1N8b78 1N8a7d 1N892e 1N82f6 1N8869
   1N87f0 1N8776 1N8630 1N859c 1N8568 1N8487 1N8486 1N83dc 1N83cc 1N83b4 1N835f 1N836a 1N81df
   1N7ffb 1N7eed 1N7e33 1N7d54 1N7cbc 1N7b73 1N7aad 1N7761 1N76c5 1N733c 1N7175 1N7131 1N7122
   1N6ffa 1N6fc2 1N6ff0 1N6fbb 1N6fbf 1N6fd1 1N6f86 1N6f36 1N6db9 1N6b8a 1N6a51 1N692b 1N684f
   1N644a 1N63e4 1N6372 1N62ee 1N62cb 1N62c0 1N6291 1N5fbb 1N5b32 1P12d7b 1P12d74 1P13904 1Nbf35
   1Nbabb 1Nba9b 1P15774 1P161fa 1P183fc 1N5b95 1N5b4b 26X 1M66.66 1M66.69 1M66.6c 1M66.66.69
   1M66.66.6c 2M73.74 cX 1M574.576 1M574.565 1M574.56b 1M57e.576 1M574.56d 5X 1M5d9.5b4 1V
   1M5f2.5b7 1Nf53e 1Nf551 2Nf54f 3Nf549 1Nf53f 1Nf53e 1Nfafe 1M5e9.5c1 1M5e9.5c2 1M5e9.5bc.5c1
   1M5e9.5bc.5c2 1M5d0.5b7 1M5d0.5b8 1M5d0.5bc 1M5d1.5bc 1M5d2.5bc 1M5d3.5bc 1M5d4.5bc 1M5d5.5bc
   1M5d6.5bc 1X 1M5d8.5bc 1M5d9.5bc 1M5da.5bc 1M5db.5bc 1M5dc.5bc 1X 1M5de.5bc 1X 1M5e0.5bc
   1M5e1.5bc 1X 1M5e3.5bc 1M5e4.5bc 1X 1M5e6.5bc 1M5e7.5bc 1M5e8.5bc 1M5e9.5bc 1M5ea.5bc 1M5d5.5b9
   1M5d1.5bf 1M5db.5bf 1M5e4.5bf 1M5d0.5dc 2M671 4M67b 4M67e 4M680 4M67a 4M67f 4M679 4M6a4 4M6a6
   4M684 4M683 4M686 4M687 2M68d 2M68c 2M68e 2M688 2M698 2M691 4M6a9 4M6af 4M6b3 4M6b1 2M6ba 4M6bb
   2M6c0 4M6c1 4M6be 2M6d2 2M6d3 21V 4M6ad 2M6c7 2M6c6 2M6c8 1M6c7.674 2M6cb 2M6c5 2M6c9 4M6d0
   2M649 2M626.627 2M626.6d5 2M626.648 2M626.6c7 2M626.6c6 2M626.6c8 3M626.6d0 3M626.649 4M6cc
   1M626.62c 1M626.62d 1M626.645 1M626.649 1M626.64a 1M628.62c 1M628.62d 1M628.62e 1M628.645
   1M628.649 1M628.64a 1M62a.62c 1M62a.62d 1M62a.62e 1M62a.645 1M62a.649 1M62a.64a 1M62b.62c
   1M62b.645 1M62b.649 1M62b.64a 1M62c.62d 1M62c.645 1M62d.62c 1M62d.645 1M62e.62c 1M62e.62d
   1M62e.645 1M633.62c 1M633.62d 1M633.62e 1M633.645 1M635.62d 1M635.645 1M636.62c 1M636.62d
   1M636.62e 1M636.645 1M637.62d 1M637.645 1M638.645 1M639.62c 1M639.645 1M63a.62c 1M63a.645
   1M641.62c 1M641.62d 1M641.62e 1M641.645 1M641.649 1M641.64a 1M642.62d 1M642.645 1M642.649
   1M642.64a 1M643.627 1M643.62c 1M643.62d 1M643.62e 1M643.644 1M643.645 1M643.649 1M643.64a
   1M644.62c 1M644.62d 1M644.62e 1M644.645 1M644.649 1M644.64a 1M645.62c 1M645.62d 1M645.62e
   1M645.645 1M645.649 1M645.64a 1M646.62c 1M646.62d 1M646.62e 1M646.645 1M646.649 1M646.64a
   1M647.62c 1M647.645 1M647.649 1M647.64a 1M64a.62c 1M64a.62d 1M64a.62e 1M64a.645 1M64a.649
   1M64a.64a 1M630.670 1M631.670 1M649.670 1M20.64c.651 1M20.64d.651 1M20.64e.651 1M20.64f.651
   1M20.650.651 1M20.651.670 1M626.631 1M626.632 1M626.645 1M626.646 1M626.649 1M626.64a 1M628.631
   1M628.632 1M628.645 1M628.646 1M628.649 1M628.64a 1M62a.631 1M62a.632 1M62a.645 1M62a.646
   1M62a.649 1M62a.64a 1M62b.631 1M62b.632 1M62b.645 1M62b.646 1M62b.649 1M62b.64a 1M641.649
   1M641.64a 1M642.649 1M642.64a 1M643.627 1M643.644 1M643.645 1M643.649 1M643.64a 1M644.645
   1M644.649 1M644.64a 1M645.627 1M645.645 1M646.631 1M646.632 1M646.645 1M646.646 1M646.649
   1M646.64a 1M649.670 1M64a.631 1M64a.632 1M64a.645 1M64a.646 1M64a.649 1M64a.64a 1M626.62c
   1M626.62d 1M626.62e 1M626.645 1M626.647 1M628.62c 1M628.62d 1M628.62e 1M628.645 1M628.647
   1M62a.62c 1M62a.62d 1M62a.62e 1M62a.645 1M62a.647 1M62b.645 1M62c.62d 1M62c.645 1M62d.62c
   1M62d.645 1M62e.62c 1M62e.645 1M633.62c 1M633.62d 1M633.62e 1M633.645 1M635.62d 1M635.62e
   1M635.645 1M636.62c 1M636.62d 1M636.62e 1M636.645 1M637.62d 1M638.645 1M639.62c 1M639.645
   1M63a.62c 1M63a.645 1M641.62c 1M641.62d 1M641.62e 1M641.645 1M642.62d 1M642.645 1M643.62c
   1M643.62d 1M643.62e 1M643.644 1M643.645 1M644.62c 1M644.62d 1M644.62e 1M644.645 1M644.647
   1M645.62c 1M645.62d 1M645.62e 1M645.645 1M646.62c 1M646.62d 1M646.62e 1M646.645 1M646.647
   1M647.62c 1M647.645 1M647.670 1M64a.62c 1M64a.62d 1M64a.62e 1M64a.645 1M64a.647 1M626.645
   1M626.647 1M628.645 1M628.647 1M62a.645 1M62a.647 1M62b.645 1M62b.647 1M633.645 1M633.647
   1M634.645 1M634.647 1M643.644 1M643.645 1M644.645 1M646.645 1M646.647 1M64a.645 1M64a.647
   1M640.64e.651 1M640.64f.651 1M640.650.651 1M637.649 1M637.64a 1M639.649 1M639.64a 1M63a.649
   1M63a.64a 1M633.649 1M633.64a 1M634.649 1M634.64a 1M62d.649 1M62d.64a 1M62c.649 1M62c.64a
   1M62e.649 1M62e.64a 1M635.649 1M635.64a 1M636.649 1M636.64a 1M634.62c 1M634.62d 1M634.62e
   1M634.645 1M634.631 1M633.631 1M635.631 1M636.631 1M637.649 1M637.64a 1M639.649 1M639.64a
   1M63a.649 1M63a.64a 1M633.649 1M633.64a 1M634.649 1M634.64a 1M62d.649 1M62d.64a 1M62c.649
   1M62c.64a 1M62e.649 1M62e.64a 1M635.649 1M635.64a 1M636.649 1M636.64a 1M634.62c 1M634.62d
   1M634.62e 1M634.645 1M634.631 1M633.631 1M635.631 1M636.631 1M634.62c 1M634.62d 1M634.62e
   1M634.645 1M633.647 1M634.647 1M637.645 1M633.62c 1M633.62d 1M633.62e 1M634.62c 1M634.62d
   1M634.62e 1M637.645 1M638.645 2M627.64b 12V 1M62a.62c.645 2M62a.62d.62c 1M62a.62d.645
   1M62a.62e.645 1M62a.645.62c 1M62a.645.62d 1M62a.645.62e 2M62c.645.62d 1M62d.645.64a
   1M62d.645.649 1M633.62d.62c 1M633.62c.62d 1M633.62c.649 2M633.645.62d 1M633.645.62c
   2M633.645.645 2M635.62d.62d 1M635.645.645 2M634.62d.645 1M634.62c.64a 2M634.645.62e
   2M634.645.645 1M636.62d.649 2M636.62e.645 2M637.645.62d 1M637.645.645 1M637.645.64a
   1M639.62c.645 2M639.645.645 1M639.645.649 1M63a.645.645 1M63a.645.64a 1M63a.645.649
   2M641.62e.645 1M642.645.62d 1M642.645.645 1M644.62d.645 1M644.62d.64a 1M644.62d.649
   2M644.62c.62c 2M644.62e.645 2M644.645.62d 1M645.62d.62c 1M645.62d.645 1M645.62d.64a
   1M645.62c.62d 1M645.62c.645 1M645.62e.62c 1M645.62e.645 2V 1M645.62c.62e 1M647.645.62c
   1M647.645.645 1M646.62d.645 1M646.62d.649 2M646.62c.645 1M646.62c.649 1M646.645.64a
   1M646.645.649 2M64a.645.645 1M628.62e.64a 1M62a.62c.64a 1M62a.62c.649 1M62a.62e.64a
   1M62a.62e.649 1M62a.645.64a 1M62a.645.649 1M62c.645.64a 1M62c.62d.649 1M62c.645.649
   1M633.62e.649 1M635.62d.64a 1M634.62d.64a 1M636.62d.64a 1M644.62c.64a 1M644.645.64a
   1M64a.62d.64a 1M64a.62c.64a 1M64a.645.64a 1M645.645.64a 1M642.645.64a 1M646.62d.64a
   1M642.645.62d 1M644.62d.645 1M639.645.64a 1M643.645.64a 1M646.62c.62d 1M645.62e.64a
   1M644.62c.645 1M643.645.645 1M644.62c.645 1M646.62c.62d 1M62c.62d.64a 1M62d.62c.64a
   1M645.62c.64a 1M641.645.64a 1M628.62d.64a 1M643.645.645 1M639.62c.645 1M635.645.645
   1M633.62e.64a 1M646.62c.64a 8V 20X 1M635.644.6d2 1M642.644.6d2 1M627.644.644.647
   1M627.643.628.631 1M645.62d.645.62f 1M635.644.639.645 1M631.633.648.644 1M639.644.64a.647
   1M648.633.644.645 1M635.644.649
   1M635.644.649.20.627.644.644.647.20.639.644.64a.647.20.648.633.644.645
   1M62c.644.20.62c.644.627.644.647 1M631.6cc.627.644 3V 10I 1Nfde4 1Nce10 1X 2Nfdd9 1Nfdf4 1Nfdd7
   2Nce01 7X 10V 1X 1Nde1d 1Nde1f 2M5f 2Nfe0d 1Nfdbc 1Nfdbb 2Nce25 2Nce2b 2Nce33 2Nce37 4Nce35 2V
   1Nfdec 1Nfdeb 4M20.305 3M5f 1Nfe24 1Nce50 2X 1Nfe19 1Nfe1b 1Nfe17 1Nfe36 1Nde44 2Nfe31 1Nfde0
   1Nfddf 2Nce49 1Nfe3c 1Nfe3a 2Nfe37 1Nfe36 1Nfe28 1Nfe27 1Nfe29 1X 1Nfe0c 2Nfe45 1Nfe2b 4X
   1M20.64b 1M640.64b 1M20.64c 1V 1M20.64d 1X 1M20.64e 1M640.64e 1M20.64f 1M640.64f 1M20.650
   1M640.650 1M20.651 1M640.651 1M20.652 1M640.652 1Nf85f 2M622 2M623 2M624 2M625 4M626 2M627
   4M628 2M629 4M62a 4M62b 4M62c 4M62d 4M62e 2M62f 2M630 2M631 2M632 4M633 4M634 4M635 4M636 4M637
   4M638 4M639 4M63a 4M641 4M642 4M643 4M644 4M645 4M646 4M647 2M648 2M649 4M64a 2M644.622
   2M644.623 2M644.625 2M644.627 2X 1I 1X 20Nfee0 1aNfec0 24Nfee0 2Nd5da 1Nff33 2Ncf56 1Ncf63
   1Nce6a 1Nce74 1Ncec6 1Ncec5 1Ncec4 1Ncec3 1Ncec2 1Nce89 1Nce88 1Nce87 1Nceac 1Nce74 1Ncecf
   1Ncece 1Ncecd 1Ncecc 2Ncecb 1Nceca 1Ncec9 1Ncec8 1Ncec7 1Ncec6 1Ncec5 1Ncec4 1Ncec3 1Ncec2
   1Ncec1 1Ncec0 1Ncebe 1Ncebd 1Ncebc 6Ncebb 1Nceb9 1Nceb7 1Nceb5 1Nceb3 5Nceb1 1Nceb0 1Nceaf
   6Nceae 1Ncead 1Nceaa 2Ncf05 1I 2Neea1 1Nedf9 1Neea2 2Nedf9 3Neea4 6Nedfa 1Nee96 3Neeab 1Nee93
   aNeeac 3X 6Nee61 2X 6Nee63 2X 6Nee65 2X 3Nee67 3X 2Nff3e 1Nff36 1M20.304 1Nff3e 1Nff40 1Ndf3d
   1X 1Ndae6 4Nde59 1Nda4d 1Nda23 11X cV 1X 1aV 1X 13V 1X 2V 1X fV 2X eV 22X 7bV 5X 3V 4X 2dV 3X
   58V 1X dV 3X 1V 2fX 2eV 82X 1dV 3X 31V fX 1cV 4X 24V 9X 1eV 5X 2bV 5X 1eV 1X 25V 4X eV 2aX
   28P28 76V 2X aV 6X 24P28 4X 24V 4X 28V 8X 34V bX 1V bP27 1X fP27 1X 7P27 1X 2P27 1X bV 1X fV 1X
   7V 1X 2V 3X 34V cX 137V 9X 16V aX 8V 18X 1V 2N104b1 1N1069d 1N104eb 1N10532 1X 1N104e4 1N5c22
   1N104e4 1N104e6 2N10535 1Ne9fc 1N10536 1N10531 1N104e7 1N1052d 1N10530 1N10533 1N104f9 1N1066e
   1N104fa 1N10530 1N10514 2N104ef 1N1052f 1Pd768 1N600f 1N10530 1Pd766 1N10512 1Pd765 1N106aa
   2N1052d 1N10734 1N1052c 1Pd761 2N1052b 1N1052a 1N10503 1N10506 1N5c46 1N10507 1N10527 1Ndb3f 1X
   1N10523 2N10512 1N1051d 3N105f6 1Pd751 1Pd764 45X 6V 2X 1V 1X 2cV 1X 2V 3X 1V 2X 17V 1X 48V 8X
   9V 30X 13V 1X 2V 5X 21V 3X 1bV 5X 1bV 26X 38V 4X 14V 2X 32V 1X 2V 5X 8V 1X 3V 1X 1dV 2X 3V 4X
   aV 7X 9V 7X 40V 20X 27V 4X cV 9X 36V 3X 1dV 2X 1bV 5X 1aV 7X 4V cX 7V 50X 49V 37X 33P40 dX 33V
   7X 2eV 8X aV 6X 10V 16P20 3X 1dV 8X 2V d0X 1fV 1X 2aV 1X 3V 2X 2V 10X 6V 8X 9V 21X 2eV 8X 2aV
   16X 1aV 26X 1cV 14X 17V 9X 4eV 4X 24V 9X 3eV 1X 5V dX 19V 7X aV 6X 35V 1X 12V 8X 27V 9X 60V 1X
   14V bX 12V 1X 2fV 3eX 7V 1X 1V 1X 4V 1X fV 1X bV 6X 3bV 5X aV 6X 4V 1X 8V 2X 2V 2X 16V 1X 7V 1X
   2V 1X 5V 1X aV 2X 2V 2X 3V 2X 1V 6X 1V 5X 7V 2X 7V 3X 5V bX aV 1X 1V 2X 1V 1X 26V 1X aV 1X 1V
   2X 1V 1X 4V 1X aV 1X 2V 8X 2V 1dX 5cV 1X 5V 1eX 48V 8X aV a6X 36V 2X 26V 22X 45V bX aV 6X dV
   13X 3aV 6X aV 6X 14V 1cX 1bV 2X fV 4X 17V b9X 3cV 64X 20P20 33V cX 8V 2X 1V 2X 8V 1X 2V 1X 1eV
   1X 2V 2X cV 9X aV 46X 8V 2X 2eV 2X bV 1bX 48V 8X 53V dX 49V 7X aV 56X 8V 58X 22V eX aV 6X 9V 1X
   2dV 1X eV aX 1dV 3X 20V 2X 16V 1X eV 49X 7V 1X 2V 1X 2cV 3X 1V 1X 2V 1X 9V 8X aV 6X 6V 1X 2V 1X
   25V 1X 2V 1X 6V 7X aV 6X 2cV 4X aV f6X 19V 7X 11V 1X 29V 3X 1dV 55X 1V fX 32V dX 39bV 66X 6fV
   1X 5V bX c4V a4cX 63V dX 430V 10X 16V aX f9bV 5X 247V 1ab9X 3aV 6c6X 239V 7X 1fV 1X aV 4X 51V
   1X aV 6X 1eV 2X 6V aX 46V aX aV 1X 7V 1X 15V 5X 13V 1b0X 3aV c6X 20P20 3bV 5X 19P1b 2X 19V 2cX
   4bV 4X 39V 7X 11V 40X 5V bX 7V 9X 1cd6V 29X 20V 61X 73V 21fdX 4V 1X 7V 1X 2V 1X 123V fX 1V 1dX
   3V 2X 1V eX 4V 8X 18cV 904X 6bV 5X dV 3X 9V 7X aV 2X 4V 4I f5cX d6V 1aN1cc75 aN1ccc0 3V 3X 1b4V
   6X 17V fX 11V fX 2eV 2X 17V 9X 74V 3cX f6V aX 27V 2X 35V 1M1d157.1d165 1M1d158.1d165
   1M1d158.1d165.1d16e 1M1d158.1d165.1d16f 1M1d158.1d165.1d170 1M1d158.1d165.1d171
   1M1d158.1d165.1d172 eV 8I 40V 1M1d1b9.1d165 1M1d1ba.1d165 1M1d1b9.1d165.1d16e
   1M1d1ba.1d165.1d16e 1M1d1b9.1d165.1d16f 1M1d1ba.1d165.1d16f 2aV 15X 46V 7aX 14V cX 14V cX 57V
   9X 19V 87X 1aN1d39f 1aN1d3b9 1aN1d3d3 7N1d3ed 1X 12N1d3ed 1aN1d407 1aN1d421 1N1d43b 1X 2N1d43b
   2X 1N1d43b 2X 2N1d43b 2X 4N1d43b 1X 8N1d43b 4N1d455 1X 1N1d455 1X 7N1d455 1X bN1d455 1aN1d46f
   1aN1d489 2N1d4a3 1X 4N1d4a3 2X 8N1d4a3 1X 7N1d4a3 1X 1aN1d4bd 2N1d4d7 1X 4N1d4d7 1X 5N1d4d7 1X
   1N1d4d7 3X 7N1d4d7 1X 1aN1d4f1 1aN1d50b 1aN1d525 1aN1d53f 1aN1d559 1aN1d573 1aN1d58d 1aN1d5a7
   1aN1d5c1 1aN1d5db 1aN1d5f5 1aN1d60f 1aN1d629 1N1d573 1N1d46e 2X 11N1d2f7 1N1d301 7N1d2f7
   1N1b4ba 11N1d311 2M3c3 6N1d311 1N1b4d9 1N1d327 1N1d325 1N1d324 1N1d319 1N1d31f 1N1d321 11N1d331
   1N1d33b 7N1d331 1N1b4f4 11N1d34b 2M3c3 6N1d34b 1N1b513 1N1d361 1N1d35f 1N1d35e 1N1d353 1N1d359
   1N1d35b 11N1d36b 1N1d375 7N1d36b 1N1b52e 11N1d385 2M3c3 6N1d385 1N1b54d 1N1d39b 1N1d399 1N1d398
   1N1d38d 1N1d393 1N1d395 11N1d3a5 1N1d3af 7N1d3a5 1N1b568 11N1d3bf 2M3c3 6N1d3bf 1N1b587 1N1d3d5
   1N1d3d3 1N1d3d2 1N1d3c7 1N1d3cd 1N1d3cf 11N1d3df 1N1d3e9 7N1d3df 1N1b5a2 11N1d3f9 2M3c3 6N1d3f9
   1N1b5c1 1N1d40f 1N1d40d 1N1d40c 1N1d401 1N1d407 1N1d409 2M3dd 2X aN1d79e aN1d7a8 aN1d7b2
   aN1d7bc aN1d7c6 28cV fX 5V 1X fV 450X 1fV 6X 6V d5X 7V 1X 11V 2X 7V 1X 2V 1X 5V 5X 9N1dc00
   3N1dbff bN1dbfe 1N1dbfc 2N1dbfb 1N139c1 1N1db72 1N1dbf6 1N1dbf5 1N1db65 1N1dba0 1N1db81 9N1dc21
   2N1dc20 2N1dc1e 1N1dc1d 6N1dc1c 2N1dc1b 1N1dbd6 1N1dc12 1N1dc14 1N1dc0b 1N1dbc0 1N13a1b 1N1dbbc
   21X 1V 70X 2dV 3X eV 2X aV 4X 2V 140X 1fV 11X 3aV 5X 1V 1d0X 2aV d6X 2bV 4X 1V c0X 1fV 1X 16V
   8X 2V e0X 7V 1X 4V 1X 2V 1X fV 1X c5V 2X 10V 29X 22P22 2aV 4X aV 4X 2V 311X 44V 4cX 3dV c2X
   2N1e7d9 1N1e7d6 1N1e7d4 1X 1N1e7bd 1N1e7d4 1N1e7da 1N1e7d1 1N1e7bf 4N1e7c7 1N1e7db 1N1e7d6
   1N1e7cf 1N1e7dc 1N1e7d0 1N1e7e2 1N1e7e0 2N1e7eb 1N1e7e9 1N1e7e8 1N1e7e3 1N1e7e2 1N1e7e1 1N1e7ae
   1N1e763 1N1e77d 1N1e7b0 1X 1N1e7f9 1N1e7f6 1X 1N1e7dd 2X 1N1e7fa 1X 1N1e7df 4N1e7e7 1N1e7fb
   1N1e7f6 1N1e7ef 1N1e7fc 1N1e7f0 1X 1N1e800 2N1e80b 1N1e809 1X 1N1e803 1X 1N1e801 6X 1N1e816 4X
   1N1e81a 1X 1N1e7ff 1X 1N1e807 1X 1N1e807 1N1e81b 1N1e816 1X 1N1e81c 1N1e810 1X 1N1e820 2X
   1N1e829 1X 1N1e823 1X 1N1e821 1X 1N1e7a3 1X 1N1e7f0 1X 1N1e839 1N1e836 1X 1N1e81d 2X 1N1e83a
   1N1e831 1N1e81f 1N1e827 1X 2N1e827 1N1e83b 1N1e836 1N1e82f 1N1e83c 1N1e830 1X 1N1e840 2N1e84b
   1N1e849 1X 1N1e843 1N1e842 1N1e841 1N1e80e 1X 1N1e7dd 1X 2N1e859 1N1e856 1N1e854 2N1e83d
   1N1e854 1N1e85a 1N1e851 1N1e83f 1X 3N1e847 1N1e85b 1N1e856 1N1e84f 1N1e85c 1N1e850 1N1e862
   1N1e860 2N1e86b 1N1e869 1N1e868 1N1e863 1N1e862 1N1e861 5X 1N1e879 1N1e876 1N1e874 1X 1N1e85d
   1N1e874 1N1e87a 1N1e871 1N1e85f 1X 3N1e867 1N1e87b 1N1e876 1N1e86f 1N1e87c 1N1e870 1N1e882
   1N1e880 2N1e88b 1N1e889 1N1e888 1N1e883 1N1e882 1N1e881 34X 2V 10eX 2cV 4X 64V cX fV 2X fV 1X
   fV 1X 25V bX 1M30.2c 1M31.2c 1M32.2c 1M33.2c 1M34.2c 1M35.2c 1M36.2c 1M37.2c 1M38.2c 1M39.2c 5V
   1M28.61.29 1M28.62.29 1M28.63.29 1M28.64.29 1M28.65.29 1M28.66.29 1M28.67.29 1M28.68.29
   1M28.69.29 1M28.6a.29 1M28.6b.29 1M28.6c.29 1M28.6d.29 1M28.6e.29 1M28.6f.29 1M28.70.29
   1M28.71.29 1M28.72.29 1M28.73.29 1M28.74.29 1M28.75.29 1M28.76.29 1M28.77.29 1M28.78.29
   1M28.79.29 1M28.7a.29 1M3014.73.3015 1N1f0c8 1N1f0ba 1M63.64 1M77.7a 1V 1aN1f0cf 1M68.76
   1M6d.76 1M73.64 1M73.73 1M70.70.76 1M77.63 1aV 1M6d.63 1M6d.64 1M6d.72 23V 1M64.6a 1dV 38X 1aV
   1M307b.304b 1M30b3.30b3 1N1c14d dX 1N18fc5 1N196ba 1N19e46 1N1c14c 1N1a388 1N198fb 1N16833
   1N198ee 1N1a374 1N18bf9 1N180f9 1N18c82 1N19fcf 1N19291 1N1a091 1N18c6f 1N1a003 1N174df 1N17d03
   1N1657a 1N19934 1N19dec 1N18312 1N18f92 1N18ed3 1N1a429 1N1a421 1N161e1 1N19446 1N1a400 1N19e3b
   1N18f28 1N164c0 1N18fde 1N178b1 1N177b9 1N19e2c 1N183b5 1N18b2d 1N18b2f 1N17d05 1N19fc7 1N19c84
   1N160ee 4X 1M3014.672c.3015 1M3014.4e09.3015 1M3014.4e8c.3015 1M3014.5b89.3015 1M3014.70b9.3015
   1M3014.6253.3015 1M3014.76d7.3015 1M3014.52dd.3015 1M3014.6557.3015 7X 1N192b9 1N19e62 eX 6V
   9aX 3d9V 3X 11V 3X dV 3X daV 6X cV 4X 1V fX cV 4X 38V 8X aV 6X 28V 8X 1eV 2X cV 4X 2V eX 9V 27X
   158V 8X eV 2X dV 3X bV 3X 39V 1X 1V 4X 10V 2X cV 4X aV 7X 93V 1X 5cV aN1fbc0 1V 405X a6e0V 20X
   111eV 2X 168eV 2X 1d31V fX 26eV 9a2X 1N2a9c3 1N2a9c9 1N2a9c1 1Nf6e1 1N2a8a4 1N2a857 1N2a84b
   1N2a805 1N2a78e 1N2a770 1N2a723 1N2a73c 1N2c36e 1Nf1d3 1N2a6c1 1N2a6bb 1N2a6ac 1N2a69a 1Nf2f6
   1N2c35a 1N2a6ad 1N2a688 1Nf2cb 1N2a680 1N2a674 1N2a94d 1N2a66e 1N2a666 1N663d 1N2a628 1N2a61b
   1N2c340 1N2a5e5 1N2a5db 1N2a5b0 1N2a5ac 1N2c30f 1N2a55e 1N2a55d 1N2a543 1N2a52e 2N2a524 1N2a514
   1N2a4e3 1N2a4dc 1N2a4d4 1N2a4bc 1N2a4b3 3M537f 1Nee08 1N287c5 1N2a46c 1N2a458 1Necd5 1N2a44e
   1N2a449 1N2a435 1N2a39e 1N2a405 1N2a3f6 1N2a3d7 1N2a39e 1N2a34b 1N2a332 1N2a2f0 1N2a2e1 2M5584
   1N2a2ae 1N2a29d 1N2a296 1N2a288 1N2a135 1N2a246 1N2a136 1N2a1fd 1N2a1db 1N2a649 1N29f63 1N2a084
   1N2a05f 1N2a047 1N2a0ca 1N2a024 1N2a026 1N29fac 1Ne375 1N29f68 1N29f64 1N29f56 1N29f43 1N29f3c
   1N29efd 1Ne1b8 1Ne177 1N29e76 1N29e48 1N29e3d 1N29e8d 1N29e00 1N2c179 1N2c16c 1N29d61 2M5b3e
   1Ndea4 1N29caa 1N29c96 1N29c88 1N29c7d 1Ndd59 1N29c73 1N29c6d 1N29921 1N29c53 1N2c0f5 1N29c17
   1N29c0a 1N29bb9 1N29bed 1Nda97 1N29b39 1Nda97 1N29b10 1N29b14 1N29b04 2N29aa0 1N2c054 1N29a87
   1N29a5d 1N29a49 1N29a1e 1N2c026 1Nd706 1N2c00e 1N299db 1N299d9 1N299d7 1N299c4 1N54fd 1N29992
   2M22331 1N27692 2M5f22 1N2bfcf 1Nc5df 1N96be 1N29937 1N2992f 1N2bfb8 1N29902 1N298d0 1N298c7
   1N298a6 1N2981f 1N2bf67 1N2bf86 1N2980f 1Nd1d0 1N297de 1N2975e 1N2975b 1N2975a 1N2975d 1N29730
   1N2971d 1N296fa 1N29709 1N296ff 1N296d1 1N296be 1N296bb 1N296a2 1N29698 1N29657 1N29604 1N295e2
   1N29567 1Ncdac 1N2957c 1N295be 1N29553 1N29539 1N294d9 1Ncccd 1N2949d 1N294fb 1N29518 1N2be94
   1N2945a 1N29446 1N29428 1N2944f 1N2be5b 1N29379 1N2935d 1Nc8c0 1N292e8 1N291d4 1N29284 1N2bdb5
   1N2923e 1N2bdc8 1N2bded 1N2a740 1N2a73e 1N291d4 1N29239 1N27829 1N2b4fe 1N291c1 1N291be 1N291b9
   1N2917d 1N29189 1Nc51a 1N2bd95 1N290e5 1N2915b 1N2908f 1N2905d 1Nc476 1N29056 1N290c6 1N28fd2
   1N2bd4a 1N28fa6 1N28f46 1N28f00 1N28e43 1Nc249 1N28e12 1N2bcd6 1N28dce 1Nc049 1N28d9d 1N2bca4
   1N28d81 1N28d55 2N28d3b 1Nbe6a 1Ndbed 1Nbdff 1N28cac 1Nbc3f 1N28c3d 1N28c30 1N28c97 1N28be9
   1N28bc2 1N28b8a 1N28bc1 1N28b9a 1N28b8c 1N28b80 1Nbbe8 1N28bd3 1N28ad9 1N28a9b 1N2bbd7 1N28a40
   1N28a45 1Nba3c 1N28b15 1N289a1 1Nb9b2 1Nb983 1N2894c 1N288da 1N288f6 1N288fa 1N2bb80 1N288cd
   1N2889b 1N288a2 1N2886d 1Nf3f6 1N287d7 1Nb6ba 1N28782 1Nb574 1N286f8 1N286ec 1N286d2 1Nb31b
   1N286a4 1N28690 1Nb1f1 1Nb113 1N285ae 1N2859e 1N2ba7e 1N28586 2M3eb8 1N284e7 1N284d3 1N284bf
   1N284ac 1N28468 1N2ba18 1N28410 1Nacff 1N283f8 1Naca5 1N283c8 1Nd79a 1N2832a 1Na99a 1Na984
   1Na8f9 1N2b942 1N2b937 1N2824c 1Na84e 1Na850 1Na82a 1Na811 1N28227 2M771f 1N281fe 1N2b910
   1N281bf 1N2b905 1N2b8b6 1Na530 1N28100 1N280c3 1N28084 1N2b86e 1Na32c 1N27ffd 1Na2ba 1Na290
   1N27fc7 1N27f6c 1N2b829 1N27f19 1N27f10 1N27f0c 1N9fe0 2M25aa7 1N27e71 1N2b75e 1N9db6 1N27d9c
   1N27d9a 1N2b73d 1N9ce5 1N27c94 1N2b6c7 1N27c80 1N27c86 1N27c6a 1N99e5 1N27c09 1N2b66c 1N27ba7
   1N27b6d 1N27b2b 1N2b63d 1N974a 1N972c 1N2b61b 1N969c 1N279fc 1N9639 1N279e3 1N2797f 1N27975
   1N94a1 1N9459 1N2791d 1N93d6 1N2790f 1Nc621 1N2b5ac 1N278d0 1N27880 1N2b579 1N27847 1N29ed1
   1N91e0 1N91d3 1Nc5f6 1Nc5ee 1N2778a 1N27788 1N269ef 1N2b523 1N276fe 1N27705 1N276f4 1N2a6df
   1N276e2 1N276e1 1N276d8 1N276b0 1N8e5b 1N276b3 1N2767c 1N27637 1N275ee 1N27679 1N275e0 1N275b7
   1N27548 1N2764d 1N275d7 1N275d6 1N275c7 1N8d6e 1N8c3a 1N8cd1 1N2b47c 1N274b7 1N274b6 1N27494
   1N85e1 1N27448 1N8a81 1N2b451 1N2b44e 1N89ff 1N88df 1N2b447 1N27363 1N27358 1N2734e 1N2734d
   1N2730e 1N27330 1N272ab 1N272d8 1N27242 1N27294 1N27252 1N27238 1N2b3e8 1N271df 1N271c0 1N2b3c9
   1N27163 1N27161 1N835e 1N270ef 1N270e9 1N2b393 1N270cf 1N2c50f 1N811d 1N8066 1N2b30f 1N2b307
   1N26f2f 1N26ee3 1N26e47 1N26d7d 1N7d2b 1N26d29 1N26d14 1N26cbb 1N26c60 1N7aa9 1Nf1d5 1N26c0f
   1N26c1f 1N26bec 1Nf0ff 1N26b0a 1N26aa7 1N740e 1N73f4 1N2694e 1N268f2 1N268d3 1N72b7 1N268cb
   1N267af 2N26711 1N2676e 1N265f2 1N265d7 1N6df3 1N26463 1N2b05a 1N26439 1N6c7a 1N2b00c 1N26330
   1N29c42 1N262d2 1N68b1 1N67dd 1N2af8a 1N2af83 1N2621a 1N65f1 1N2af4a 1N6567 2M980b 1N261d7
   1N644b 1N26120 1N2aed0 1N260db 1N2605e 1N26044 1N26009 1N2ae3a 1N5ed9 1N25ef8 1N25dcb 1N25d0f
   1N2ad3f 1N2ad21 1N25ca8 1N5942 1N2ad19 1N590d 1N5805 1N5783 1N25b5a 1N2acc0 1N25b1e 1N25b1a
   1N25b14 1N25b0b 1N25b05 1N25ae1 1N541d 5e2X 134bV 5X 212aV acc86X f0I 2fe10X"

/-- The fate of a code point. In ASCII only the capitals do not stay. -/
def fate (n : Nat) : Fate :=
  if n < 0x80 then if 0x41 ≤ n ∧ n ≤ 0x5A then .becomes [n + 0x20] else .stays
  else if isIdeograph n then .stays
  else match mappingRuns.get n with
    | 'V' :: _ => .stays
    | 'I' :: _ => .disappears
    | 'P' :: ds => .becomes [n + Text.hexNumber ds]
    | 'N' :: ds => .becomes [n - Text.hexNumber ds]
    | 'M' :: ds => .becomes ((ds.splitOnP (· == '.')).map Text.hexNumber)
    | _ => .refused

end Repeater.Idna
