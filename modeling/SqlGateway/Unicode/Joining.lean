import SqlGateway.Unicode.Table

/-! How the letters of a cursive script join the letters beside them. The spans run across code
points that no domain name holds. -/
namespace SqlGateway.Unicode

inductive Joining where
  /-- Joins both neighbours. -/
  | dual
  /-- Joins the letter that follows. -/
  | following
  /-- Joins the letter before it. -/
  | preceding
  /-- Is passed over. -/
  | transparent
  | none
  deriving DecidableEq, Repr

namespace Joining

def read? : List Char → Option Joining
  | ['D'] => some dual
  | ['L'] => some following
  | ['R'] => some preceding
  | ['T'] => some transparent
  | _ => Option.none

def table : Table Joining := Table.ofText read?
  "300-36F=T 483-489=T 591-5BD=T 5BF=T 5C1-5C2=T 5C4-5C5=T 5C7=T 610-61A=T 620=D 622-625=R 626=D
627=R 628=D 629=R 62A-62E=D 62F-632=R 633-63F=D 641-647=D 648=R 649-64A=D 64B-65F=T 66E-66F=D
670=T 671-673=R 679-687=D 688-699=R 69A-6BF=D 6C0=R 6C1-6C2=D 6C3-6CB=R 6CC=D 6CD=R 6CE=D 6CF=R
6D0-6D1=D 6D2-6D3=R 6D5=R 6D6-6DC=T 6DF-6E4=T 6E7-6E8=T 6EA-6ED=T 6EE-6EF=R 6FA-6FC=D 6FF=D 710=R
711=T 712-714=D 715-719=R 71A-71D=D 71E=R 71F-727=D 728=R 729=D 72A=R 72B=D 72C=R 72D-72E=D 72F=R
730-74A=T 74D=R 74E-758=D 759-75B=R 75C-76A=D 76B-76C=R 76D-770=D 771=R 772=D 773-774=R 775-777=D
778-779=R 77A-77F=D 7A6-7B0=T 7CA-7EA=D 7EB-7F3=T 7FD=T 816-819=T 81B-823=T 825-827=T 829-82D=T
840=R 841-845=D 846-847=R 848=D 849=R 84A-853=D 854=R 855=D 856-858=R 859-85B=T 860=D 862-865=D
867=R 868=D 869-882=R 886=D 889-88D=D 88E=R 88F=D 897-89F=T 8A0-8A9=D 8AA-8AC=R 8AE=R 8AF-8B0=D
8B1-8B2=R 8B3-8B8=D 8B9=R 8BA-8C8=D 8CA-902=T 93A=T 93C=T 941-948=T 94D=T 951-957=T 962-963=T
981=T 9BC=T 9C1-9C4=T 9CD=T 9E2-9E3=T 9FE-A02=T A3C=T A41-A51=T A70-A71=T A75=T A81-A82=T ABC=T
AC1-AC8=T ACD=T AE2-AE3=T AFA-B01=T B3C=T B3F=T B41-B44=T B4D-B56=T B62-B63=T B82=T BC0=T BCD=T
C00=T C04=T C3C=T C3E-C40=T C46-C56=T C62-C63=T C81=T CBC=T CBF=T CC6=T CCC-CCD=T CE2-CE3=T
D00-D01=T D3B-D3C=T D41-D44=T D4D=T D62-D63=T D81=T DCA=T DD2-DD6=T E31=T E34-E3A=T E47-E4E=T
EB1=T EB4-EBC=T EC8-ECE=T F18-F19=T F35=T F37=T F39=T F71-F7E=T F80-F84=T F86-F87=T F8D-FBC=T
FC6=T 102D-1030=T 1032-1037=T 1039-103A=T 103D-103E=T 1058-1059=T 105E-1060=T 1071-1074=T 1082=T
1085-1086=T 108D=T 109D=T 135D-135F=T 1712-1714=T 1732-1733=T 1752-1753=T 1772-1773=T 17B7-17BD=T
17C6=T 17C9-17D3=T 17DD=T 1807=D 1820-1878=D 1885-1886=T 1887-18A8=D 18A9=T 18AA=D 1920-1922=T
1927-1928=T 1932=T 1939-193B=T 1A17-1A18=T 1A1B=T 1A56=T 1A58-1A60=T 1A62=T 1A65-1A6C=T
1A73-1A7F=T 1AB0-1B03=T 1B34=T 1B36-1B3A=T 1B3C=T 1B42=T 1B6B-1B73=T 1B80-1B81=T 1BA2-1BA5=T
1BA8-1BA9=T 1BAB-1BAD=T 1BE6=T 1BE8-1BE9=T 1BED=T 1BEF-1BF1=T 1C2C-1C33=T 1C36-1C37=T 1CD0-1CD2=T
1CD4-1CE0=T 1CE2-1CE8=T 1CED=T 1CF4=T 1CF8-1CF9=T 1DC0-1DFF=T 20D0-20F0=T 2CEF-2CF1=T 2D7F=T
2DE0-2DFF=T 302A-302D=T 3099-309A=T A66F-A672=T A674-A67D=T A69E-A69F=T A6F0-A6F1=T A802=T A806=T
A80B=T A825-A826=T A82C=T A840-A871=D A872=L A8C4-A8C5=T A8E0-A8F1=T A8FF=T A926-A92D=T
A947-A951=T A980-A982=T A9B3=T A9B6-A9B9=T A9BC-A9BD=T A9E5=T AA29-AA2E=T AA31-AA32=T AA35-AA36=T
AA43=T AA4C=T AA7C=T AAB0=T AAB2-AAB4=T AAB7-AAB8=T AABE-AABF=T AAC1=T AAEC-AAED=T AAF6=T ABE5=T
ABE8=T ABED=T FB1E=T FE20-FE2F=T 101FD=T 102E0=T 10376-1037A=T 10A01-10A0F=T 10A38-10A3F=T
10AC0-10AC4=D 10AC5=R 10AC7=R 10AC9-10ACA=R 10ACD=L 10ACE-10AD2=R 10AD3-10AD6=D 10AD7=L
10AD8-10ADC=D 10ADD=R 10ADE-10AE0=D 10AE1=R 10AE4=R 10AE5-10AE6=T 10AEB-10AEE=D 10AEF=R 10B80=D
10B81=R 10B82=D 10B83-10B85=R 10B86-10B88=D 10B89=R 10B8A-10B8B=D 10B8C=R 10B8D=D 10B8E-10B8F=R
10B90=D 10B91=R 10BA9-10BAC=R 10BAD-10BAE=D 10D00=L 10D01-10D21=D 10D22=R 10D23=D 10D24-10D27=T
10D69-10D6D=T 10EAB-10EAC=T 10EC2=R 10EC3-10EC4=D 10EC6-10EC7=D 10EFA-10EFF=T 10F30-10F32=D
10F33=R 10F34-10F44=D 10F46-10F50=T 10F51-10F53=D 10F54=R 10F70-10F73=D 10F74-10F75=R
10F76-10F81=D 10F82-10F85=T 10FB0=D 10FB2-10FB3=D 10FB4-10FB6=R 10FB8=D 10FB9-10FBA=R
10FBB-10FBC=D 10FBD=R 10FBE-10FBF=D 10FC1=D 10FC2-10FC3=R 10FC4=D 10FC9=R 10FCA=D 10FCB=L 11001=T
11038-11046=T 11070=T 11073-11074=T 1107F-11081=T 110B3-110B6=T 110B9-110BA=T 110C2=T
11100-11102=T 11127-1112B=T 1112D-11134=T 11173=T 11180-11181=T 111B6-111BE=T 111C9-111CC=T
111CF=T 1122F-11231=T 11234=T 11236-11237=T 1123E=T 11241=T 112DF=T 112E3-112EA=T 11300-11301=T
1133B-1133C=T 11340=T 11366-11374=T 113BB-113C0=T 113CE=T 113D0=T 113D2=T 113E1-113E2=T
11438-1143F=T 11442-11444=T 11446=T 1145E=T 114B3-114B8=T 114BA=T 114BF-114C0=T 114C2-114C3=T
115B2-115B5=T 115BC-115BD=T 115BF-115C0=T 115DC-115DD=T 11633-1163A=T 1163D=T 1163F-11640=T
116AB=T 116AD=T 116B0-116B5=T 116B7=T 1171D=T 1171F=T 11722-11725=T 11727-1172B=T 1182F-11837=T
11839-1183A=T 1193B-1193C=T 1193E=T 11943=T 119D4-119DB=T 119E0=T 11A01-11A0A=T 11A33-11A38=T
11A3B-11A3E=T 11A47=T 11A51-11A56=T 11A59-11A5B=T 11A8A-11A96=T 11A98-11A99=T 11B60=T
11B62-11B64=T 11B66=T 11C30-11C3D=T 11C3F=T 11C92-11CA7=T 11CAA-11CB0=T 11CB2-11CB3=T
11CB5-11CB6=T 11D31-11D45=T 11D47=T 11D90-11D91=T 11D95=T 11D97=T 11EF3-11EF4=T 11F00-11F01=T
11F36-11F3A=T 11F40=T 11F42=T 11F5A=T 13440=T 13447-13455=T 1611E-16129=T 1612D-1612F=T
16AF0-16AF4=T 16B30-16B36=T 16F4F=T 16F8F-16F92=T 16FE4=T 1BC9D-1BC9E=T 1CF00-1CF46=T
1D167-1D169=T 1D17B-1D182=T 1D185-1D18B=T 1D1AA-1D1AD=T 1D242-1D244=T 1DA00-1DA36=T 1DA3B-1DA6C=T
1DA75=T 1DA84=T 1DA9B-1DAAF=T 1E000-1E08F=T 1E130-1E136=T 1E2AE=T 1E2EC-1E2EF=T 1E4EC-1E4EF=T
1E5EE-1E5EF=T 1E6E3=T 1E6E6=T 1E6EE-1E6EF=T 1E6F5=T 1E8D0-1E8D6=T 1E922-1E943=D 1E944-1E94B=T"

def ofChar (c : Char) : Joining := (table.get? c).getD none

def joinsFollowing : Joining → Bool
  | dual | following => true
  | _ => false

def joinsPreceding : Joining → Bool
  | dual | preceding => true
  | _ => false

end Joining

end SqlGateway.Unicode
