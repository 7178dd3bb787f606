import Sluice.Text.CodePoints

/-!
# Directions of writing

Some scripts are written from right to left, but their digits are written from left to right.  A
domain with such a script in it is clear only if each of its labels has one direction: it starts
with a letter, has no letter of the other direction, and ends in a letter or a digit
(`hasOneDirection`).
-/

namespace Sluice.Domain

open Text (CharMap)

/-- The direction of a character. -/
inductive Direction where
  /-- From left to right. -/
  | ltr
  /-- From right to left. -/
  | rtl
  | european
  | arabic
  /-- A mark, which goes with the character before it. -/
  | mark
  /-- A sign, which goes with the characters around it. -/
  | sign
deriving DecidableEq, Repr

/-- The direction that a letter of the table stands for. -/
def Direction.ofLetter (cs : List Char) : Direction :=
  if cs = ['r'] then .rtl
  else if cs = ['a'] then .arabic
  else if cs = ['e'] then .european
  else if cs = ['n'] then .mark
  else .sign

/-- The directions of the characters that domains have, but for those from left to right. -/
def directions : CharMap Direction :=
  .read Direction.ofLetter
    ["0-8=s e-1b=s 21-2f=s 30-39=e 3a-40=s 5b-60=s 7b-7f=s a1-a7=s a9=s ab-ac=s ae=s b0-b1=s",
      "b6-b7=s bb=s bf=s d7=s f7=s 2b9-2ba=s 2c2-2cf=s 2d2-2d7=s 2de-2df=s 2e5-2ed=s 2ef-2ff=s",
      "300-33f=n 342=n 346-34e=n 350-36f=n 375=s 3f6=s 483-489=n 58a=s 58d-58f=s 591-5bd=n 5be=r",
      "5bf=n 5c0=r 5c1-5c2=n 5c3=r 5c4-5c5=n 5c6=r 5c7=n 5d0-5ea=r 5ef-5f4=r 606-607=s 608=r",
      "609-60a=s 60b=r 60c=s 60d=r 60e-60f=s 610-61a=n 61b=r 61d-64a=r 64b-65f=n 660-669=a 66a=s",
      "66b-66c=a 66d-66f=r 670=n 671-674=r 679-6d5=r 6d6-6dc=n 6de=s 6df-6e4=n 6e5-6e6=r",
      "6e7-6e8=n 6e9=s 6ea-6ed=n 6ee-6ef=r 6f0-6f9=e 6fa-70d=r 710=r 711=n 712-72f=r 730-74a=n",
      "74d-7a5=r 7a6-7b0=n 7b1=r 7c0-7ea=r 7eb-7f3=n 7f4-7f5=r 7f6-7f9=s 7fa=r 7fd=n 7fe-815=r",
      "816-819=n 81a=r 81b-823=n 824=r 825-827=n 828=r 829-82d=n 830-83e=r 840-858=r 859-85b=n",
      "85e=r 860-86a=r 870-88f=r 897-89f=n 8a0-8c9=r 8ca-8e1=n 8e3-902=n 93a=n 93c=n 941-948=n",
      "94d=n 951-957=n 962-963=n 981=n 9bc=n 9c1-9c4=n 9cd=n 9e2-9e3=n 9f2-9f3=s 9fb=s 9fe=n",
      "a01-a02=n a3c=n a41-a42=n a47-a48=n a4b-a4d=n a51=n a70-a71=n a75=n a81-a82=n abc=n",
      "ac1-ac5=n ac7-ac8=n acd=n ae2-ae3=n af1=s afa-aff=n b01=n b3c=n b3f=n b41-b44=n b4d=n",
      "b55-b56=n b62-b63=n b82=n bc0=n bcd=n bf3-bfa=s c00=n c04=n c3c=n c3e-c40=n c46-c48=n",
      "c4a-c4d=n c55-c56=n c62-c63=n c78-c7e=s c81=n cbc=n ccc-ccd=n ce2-ce3=n d00-d01=n",
      "d3b-d3c=n d41-d44=n d4d=n d62-d63=n d81=n dca=n dd2-dd4=n dd6=n e31=n e34-e3a=n e3f=s",
      "e47-e4e=n eb1=n eb4-ebc=n ec8-ece=n f18-f19=n f35=n f37=n f39=n f3a-f3d=s f71-f72=n f74=n",
      "f7a-f7e=n f80=n f82-f84=n f86-f87=n f8d-f92=n f94-f97=n f99-f9c=n f9e-fa1=n fa3-fa6=n",
      "fa8-fab=n fad-fb8=n fba-fbc=n fc6=n 102d-1030=n 1032-1037=n 1039-103a=n 103d-103e=n",
      "1058-1059=n 105e-1060=n 1071-1074=n 1082=n 1085-1086=n 108d=n 109d=n 135d-135f=n",
      "1390-1399=s 1400=s 169b-169c=s 1712-1714=n 1732-1733=n 1752-1753=n 1772-1773=n 17b7-17bd=n",
      "17c6=n 17c9-17d3=n 17db=s 17dd=n 17f0-17f9=s 1800-180a=s 1885-1886=n 18a9=n 1920-1922=n",
      "1927-1928=n 1932=n 1939-193b=n 1940=s 1944-1945=s 19de-19ff=s 1a17-1a18=n 1a1b=n 1a56=n",
      "1a58-1a5e=n 1a60=n 1a62=n 1a65-1a6c=n 1a73-1a7c=n 1a7f=n 1ab0-1add=n 1ae0-1aeb=n",
      "1b00-1b03=n 1b34=n 1b36-1b3a=n 1b3c=n 1b42=n 1b6b-1b73=n 1b80-1b81=n 1ba2-1ba5=n",
      "1ba8-1ba9=n 1bab-1bad=n 1be6=n 1be8-1be9=n 1bed=n 1bef-1bf1=n 1c2c-1c33=n 1c36-1c37=n",
      "1cd0-1cd2=n 1cd4-1ce0=n 1ce2-1ce8=n 1ced=n 1cf4=n 1cf8-1cf9=n 1dc0-1dff=n 200c-200d=s",
      "2010=s 2012-2016=s 2018-2023=s 2027=s 2030-2032=s 2035=s 2038-203b=s 203d=s 203f-2046=s",
      "204a-2056=s 2058-205e=s 20a0-20a7=s 20a9-20c1=s 20d0-20f0=n 2104=s 2108=s 2114=s",
      "2117-2118=s 211e-211f=s 2123=s 2125=s 2127=s 2129=s 212e=s 213a=s 2141-2144=s 214a-214d=s",
      "218a-218b=s 2190-222b=s 222e=s 2231-2328=s 232b-2335=s 237b-2394=s 2396-2429=s 2440-244a=s",
      "24eb-26ab=s 26ad-27ff=s 2900-2a0b=s 2a0d-2a73=s 2a77-2adb=s 2add-2b73=s 2b76-2bff=s",
      "2ce5-2cea=s 2cef-2cf1=n 2cf9-2cff=s 2d7f=n 2de0-2dff=n 2e00-2e5d=s 2e80-2e99=s 2e9b-2e9e=s",
      "2ea0-2ef2=s 3001=s 3003-3004=s 3008-3020=s 302a-302d=n 3030=s 3037=s 303d-303f=s",
      "3099-309a=n 30a0=s 30fb=s 31c0-31e5=s 4dc0-4dff=s a490-a4c6=s a60d-a60f=s a66f-a672=n",
      "a673=s a674-a67d=n a67e-a67f=s a69e-a69f=n a6f0-a6f1=n a700-a721=s a788=s a802=n a806=n",
      "a80b=n a825-a826=n a828-a82b=s a82c=n a838-a839=s a874-a877=s a8c4-a8c5=n a8e0-a8f1=n",
      "a8ff=n a926-a92d=n a947-a951=n a980-a982=n a9b3=n a9b6-a9b9=n a9bc-a9bd=n a9e5=n",
      "aa29-aa2e=n aa31-aa32=n aa35-aa36=n aa43=n aa4c=n aa7c=n aab0=n aab2-aab4=n aab7-aab8=n",
      "aabe-aabf=n aac1=n aaec-aaed=n aaf6=n ab6a-ab6b=s abe5=n abe8=n abed=n fb1e=n fbb2-fbc2=r",
      "fbc3-fbd2=s fd3e-fd4f=s fd90-fd91=s fdc8-fdcf=s fdfd-fdff=s fe20-fe2f=n fe45-fe46=s fe73=r",
      "10101=s 10140-1018c=s 10190-1019c=s 101a0=s 101fd=n 102e0=n 102e1-102fb=e 10376-1037a=n",
      "10800-10805=r 10808=r 1080a-10835=r 10837-10838=r 1083c=r 1083f-10855=r 10857-1089e=r",
      "108a7-108af=r 108e0-108f2=r 108f4-108f5=r 108fb-1091b=r 1091f=s 10920-10939=r",
      "1093f-10959=r 10980-109b7=r 109bc-109cf=r 109d2-10a00=r 10a01-10a03=n 10a05-10a06=n",
      "10a0c-10a0f=n 10a10-10a13=r 10a15-10a17=r 10a19-10a35=r 10a38-10a3a=n 10a3f=n",
      "10a40-10a48=r 10a50-10a58=r 10a60-10a9f=r 10ac0-10ae4=r 10ae5-10ae6=n 10aeb-10af6=r",
      "10b00-10b35=r 10b39-10b3f=s 10b40-10b55=r 10b58-10b72=r 10b78-10b91=r 10b99-10b9c=r",
      "10ba9-10baf=r 10c00-10c48=r 10cc0-10cf2=r 10cfa-10d23=r 10d24-10d27=n 10d30-10d39=a",
      "10d40-10d4f=r 10d69-10d6d=n 10d6e-10d85=r 10d8e-10d8f=r 10e60-10e7e=a 10e80-10ea9=r",
      "10eab-10eac=n 10ead=r 10eb0-10eb1=r 10ec2-10ec7=r 10ed0=r 10ed1-10ed8=s 10efa-10eff=n",
      "10f00-10f27=r 10f30-10f45=r 10f46-10f50=n 10f51-10f59=r 10f70-10f81=r 10f82-10f85=n",
      "10f86-10f89=r 10fb0-10fcb=r 10fe0-10ff6=r 11001=n 11038-11046=n 11052-11065=s 11070=n",
      "11073-11074=n 1107f-11081=n 110b3-110b6=n 110b9-110ba=n 110c2=n 11100-11102=n",
      "11127-1112b=n 1112d-11134=n 11173=n 11180-11181=n 111b6-111be=n 111c9-111cc=n 111cf=n",
      "1122f-11231=n 11234=n 11236-11237=n 1123e=n 11241=n 112df=n 112e3-112ea=n 11300-11301=n",
      "1133b-1133c=n 11340=n 11366-1136c=n 11370-11374=n 113bb-113c0=n 113ce=n 113d0=n 113d2=n",
      "113e1-113e2=n 11438-1143f=n 11442-11444=n 11446=n 1145e=n 114b3-114b8=n 114ba=n",
      "114bf-114c0=n 114c2-114c3=n 115b2-115b5=n 115bc-115bd=n 115bf-115c0=n 115dc-115dd=n",
      "11633-1163a=n 1163d=n 1163f-11640=n 11660-1166c=s 116ab=n 116ad=n 116b0-116b5=n 116b7=n",
      "1171d-1171f=n 11722-11725=n 11727-1172b=n 1182f-11837=n 11839-1183a=n 1193b-1193c=n",
      "1193e=n 11943=n 119d4-119d7=n 119da-119db=n 119e0=n 11a01-11a06=n 11a09-11a0a=n",
      "11a33-11a38=n 11a3b-11a3e=n 11a47=n 11a51-11a56=n 11a59-11a5b=n 11a8a-11a96=n",
      "11a98-11a99=n 11b60=n 11b62-11b64=n 11b66=n 11c30-11c36=n 11c38-11c3d=n 11c92-11ca7=n",
      "11caa-11cb0=n 11cb2-11cb3=n 11cb5-11cb6=n 11d31-11d36=n 11d3a=n 11d3c-11d3d=n",
      "11d3f-11d45=n 11d47=n 11d90-11d91=n 11d95=n 11d97=n 11ef3-11ef4=n 11f00-11f01=n",
      "11f36-11f3a=n 11f40=n 11f42=n 11f5a=n 11fd5-11ff1=s 13440=n 13447-13455=n 1611e-16129=n",
      "1612d-1612f=n 16af0-16af4=n 16b30-16b36=n 16f4f=n 16f8f-16f92=n 16fe2=s 16fe4=n",
      "1bc9d-1bc9e=n 1cc00-1ccd5=s 1ccfa-1ccfc=s 1cd00-1ceb3=s 1ceba-1ced0=s 1cee0-1cef0=s",
      "1cf00-1cf2d=n 1cf30-1cf46=n 1d167-1d169=n 1d17b-1d182=n 1d185-1d18b=n 1d1aa-1d1ad=n",
      "1d1e9-1d1ea=s 1d200-1d241=s 1d242-1d244=n 1d245=s 1d300-1d356=s 1da00-1da36=n",
      "1da3b-1da6c=n 1da75=n 1da84=n 1da9b-1da9f=n 1daa1-1daaf=n 1e000-1e006=n 1e008-1e018=n",
      "1e01b-1e021=n 1e023-1e024=n 1e026-1e02a=n 1e08f=n 1e130-1e136=n 1e2ae=n 1e2ec-1e2ef=n",
      "1e2ff=s 1e4ec-1e4ef=n 1e5ee-1e5ef=n 1e6e3=n 1e6e6=n 1e6ee-1e6ef=n 1e6f5=n 1e800-1e8c4=r",
      "1e8c7-1e8cf=r 1e8d0-1e8d6=n 1e922-1e943=r 1e944-1e94a=n 1e94b=r 1e950-1e959=r",
      "1e95e-1e95f=r 1ec71-1ecb4=r 1ed01-1ed3d=r 1eef0-1eef1=s 1f000-1f02b=s 1f030-1f093=s",
      "1f0a0-1f0ae=s 1f0b1-1f0bf=s 1f0c1-1f0cf=s 1f0d1-1f0f5=s 1f10b-1f10f=s 1f12f=s",
      "1f16d-1f16f=s 1f1ad=s 1f260-1f265=s 1f300-1f6d8=s 1f6dc-1f6ec=s 1f6f0-1f6fc=s",
      "1f700-1f7d9=s 1f7e0-1f7eb=s 1f7f0=s 1f800-1f80b=s 1f810-1f847=s 1f850-1f859=s",
      "1f860-1f887=s 1f890-1f8ad=s 1f8b0-1f8bb=s 1f8c0-1f8c1=s 1f8d0-1f8d8=s 1f900-1fa57=s",
      "1fa60-1fa6d=s 1fa70-1fa7c=s 1fa80-1fa8a=s 1fa8e-1fac6=s 1fac8=s 1facd-1fadc=s",
      "1fadf-1faea=s 1faef-1faf8=s 1fb00-1fb92=s 1fb94-1fbef=s 1fbfa=s"]

/-- The direction of a character. -/
def direction (c : Char) : Direction :=
  if c.isAlpha then .ltr else (directions.get? c).getD .ltr

/-- A character of a script that is written from right to left, or a digit of one. -/
def isRightToLeft (c : Char) : Bool :=
  0x80 ≤ c.toNat && (direction c = .rtl || direction c = .arabic)

/-- A label keeps to one direction, if there are any characters. -/
def hasOneDirection (label : List Char) : Bool :=
  let all := label.map direction
  let bare := (all.reverse.dropWhile (· = .mark)).reverse
  match all with
  | [] => true
  | .ltr :: _ =>
    !all.any (fun d => d = .rtl || d = .arabic) &&
      bare.getLast?.any fun d => d = .ltr || d = .european
  | .rtl :: _ =>
    !all.contains .ltr && !(all.contains .european && all.contains .arabic) &&
      bare.getLast?.any fun d => d = .rtl || d = .european || d = .arabic
  | _ => false

end Sluice.Domain
