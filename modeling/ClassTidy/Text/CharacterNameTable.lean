/-! The names of characters in Unicode 14, as `Text.CharacterName` reads them. -/

namespace ClassTidy.Text.CharacterName

def leadingChars : String := "abcdefghijklmnopqrstuvwxyz!$%&()*+,.:;<=>?[]^|~"

def trailingChars : String :=
  "!$%&()*+,.0123456789:;<=>?ABCDEFGHIJKLMNOPQRSTUVWXYZ[]^abcdefghijklmnopqrstuvwxyz|~"

def pairCode : String :=
  "LEALERONTHAa2INARENANIG_S_WTaZITa*CIa]RE_aXDOTIagakAa8EDOROMAPTahacTEa2aeHap_aYLav_SET_SIMa|LASH
   E_Ea8ROaaGama~aw-ajata2AS_Pa[b5b1b2b6LORATWSb&aiaYEUadDaub<BOURCHTAa2NRayHAabDMAVaZb?b0UNUPRIHEC
   Kar_FIOa2anTIa8MEVE00_CajbKaeNaXFa8ADISTQUOPDEUa2UMIR-1Ua801UBb8WXa2_B_MIa2ATIb=_AICaoa[CTTE_PHa
   ^SSOa8a*b!02EMb;bZadGAD_TLIafb[bFTWEb:bHDAYEbTSIS-2BE_b>HOWNCaYFOPOaXbwa]al03DDUS_Na2Cc>asanblcG
   aXKATa2a2c4aW1c!cFOKb,Wanc:VO04abcOamFb._ayTNGAMa2MSa!bhCc<bBa2SafTabKACWbH_OETYAbALILULAVEa!_FL
   a[Haiaoc;b(bPa8NHasO_YMPH05a2Gcucha!SWAbAbWa!CaaaYa8TbJcpLUa8Safb&IZIaYa*Sa2Ea2TTarVac-Ca^Tc1b4N
   Aa2DOSKHaaEa8MGAc[aXPaZKE_GaW6Bcqa[Tbcaba[b*aobV34_Ea2Pa8B06AGTYa[EOUa*aXbGHHb>aX_-a]bLDbpcbb!d3
   a2KckYLLbgB56bVc%Aa>a2Fc8_EPdHb4DaeOGESIa>Vb*auHASIcBamavcsd+dqdEa^DcKbidraYMaraaTb%XbOd[NOanb$b
   Fb$c9cNcL2Vab-3MOUa>_La2Hb]b$-4IAYa^_Ra0c&a^PadTFd$JEVaxc7bmdVadELHa8b:Oc0LPLcab,SUa2Zb%d9cMbiRd
   mTbNcQe>d4alb9M78Ea>HaY_Zb31dRa~Pb%abGa1b;b32c(aXc0bbIbebmaZOb(WcoXT_Ka^A08BabTTbOc)c1Sd(b4-5b71
   b72b74b76cdSazCc3Hc5eYd.b[LY_bIa2Vb34cEMa8KaW7bBNAYa!Pa2Ba2OafcyalDcTb$36AbvaaaialbJFaXa^Ndhai09
   OFa^S07FasIDOLa]Eb]Tbtc~eHc,Ab]eod235EcVGalb75cnGYOa2Wb]d6aW2bcaYf)d,Haqa^GbsP32Ac~ObJa^Ja^Vc=dw
   eMFeVeIa2RaoL31ABFcccTTRa[a!Ba,c&a2bRb=LbMd?bNfabzNf+XYa8Yaqayb$e7c%M1a2Ua3fSa8CacIbdacHIIETbQa8
   Lb^BeNaZ-6a8Ga8Pa^KboabHayb%AbFeeOOaY_c2f~CbKEGIMa*f:acDb:bSeWdiHa2a2b(eQc+PEVb+b^5f*SCbvMUa1c&a
   ^cBb:ctc?EBaaHabRYZAb8bPOTa2b)a>Ga[axdT-eAdAg0eFIbgSCUTazd|dQa]KINEUDWaka*b;b,b|b77flaxEac_f<a*P
   a^Cbrasc?b*cMc637BalUK_bDc?axf.fuaabe-PAFAKYada>Ba^BaabJbRbWboEbxacc.a!d)cyd^aZKeBMaqa!MagcobtbA
   cKc6cdb4dt2RURa^a9e6a>Ka>Na>Ta]d^afdFdoaXdodUergvh1b9AahGGJOVIa2La[b+b>_bCEbGMbYb?cebJd0cVf;h2Ia
   [a0b;aqBb(TbTb4c*OcQc;g.gfhHc]-fQA_IadKb=XbEaW4b.aXb9bPe[e5exbQghXAa]_dga8Dc!hRgGhIhGbu12385292P
   abTaca.c&awYb%bnbLGbyObyefb|c(b|e:dSaAEfGFEWIYUa!Ta>SaoCceFf^e8h3e:DUMa^a]bhasa]b%SdYh>fXEhYhuhf
   h~i%bEa2d&azfic3cNcH_cL1i$i&D_YRb(Mb*CbMeldWf$dvd,gTb0Hi5Sb$TaqUbxaZEbFd6e?ad-7LeRTOa>Ma>RafhPb^
   6baAhDaaCawa^b)adcCb%cnbNPbgfec[iNGHUOZHa8dga^a]b%MbX1bX6bsMcmashZe2BAEb)McbOa>PARb.Uala2duaohMb
   :b~bCAbRaZbaiic=a[dL1dpaff?hvgYh&hQcfi(-ie-ObD_Da]OcjLiKe%5796Eb+Ib)a*Na^bCacGahNasNbvdXcabdCERa
   tb:hebX2c*acdvgKeGeUeSdpfc-BUTSa*gHa8Wa8bRa9fHaEPbSi.bYd>cSaze%e0g?ikhJb.-edAb+Gb9a!Fa8Ra^ZaxNb8
   SbUbjbfKcPeleZb*ggj<h8ig3946CfZHa>PaXRada]a2bUIbX3bX7g7bQgS_gqbmiGi<Abba8Fa[GalTbMaZbX8bsNcjabeb
   Bena4f4Mfybzgzdli6a351HazIFOcnTctXIa*jOa>DaGg&ajb?b>b9bk6btCc?b+dD_dFahfUbeh5aaj:a988Kaqa+g(a2Ya
   2b;a>Ca>La[_b)asbX5c$0dNa[ep_g2Kh%Lh?aAjPk!k)joNhza!Ga2Ja8Ya8b+afHalCb!TbIjSbzBeAKgofrjvd;k<c]24
   AIAb)Db*EbbHb.IbqLaaLaia2Qa8b)a8gJbk2cmd$e$6f2a^f6DgPi*j3bZDZIPLb(UbjY__YaYj%aqMawalbAecbDKbEUbM
   _bX4bk0bsCc|WeDa2g3c8iok=k;jkkibr141658HbsSKVAYa>_aaa2b!a2cIa^bqadAd5a]d5iTfK-48EaxEayGfJSa[a*Ma
   ]a8afOatg>aze!b3AbWMbak7bk1bk5bnHcYOdGi85976Fb8IKTRZZ_asa!Wa*Fa8cWa[Daaa2abTb.a!beLbph.bu_cCb>iu
   lUj!fOl.ds-S81AbAJILaqLd;NaqYPa!e(aYPad_b,bDbX9bYkkbwUcPg~dbaAe4kHi)aAjj_klat2149EKFdOGUKNLfhNa^
   RaqSb4Ub)Xe0Yd5a!Ea^WaaahaxSb%a[bLljbUMbocqcWg[d*b0jAazjCbQjXjK84AbPCb?ObLRbgUazYa2_e!a8Qa8dYafP
   apgIbDcibMg~bYbKdJfGeD-emiOg+btg7arg;g;gNfMhxe1j9g5jah|jml4kLmLm*f(4172CbBEa$GOMaaMh0PatVa>YI_dG
   a!Ha8Za8f>aYIa^MabfWacf7b+BbOHbk4bk7c2b)cDOdTd4dWaZe(l<e?cCgChognbzh;gBi>EiMb$l,mIlFasm=mamOdxmp
   b!mwcr-83042AAHaxHb+NlXSgOTmu_c.aXhka^b|aaaxabihaqm3asd:b)aqb.bYbbb,boipbscWbyaZc$4cci;d!d>d*h<d
   Ravfdn(gu_hXbihhdwm.lWmxmz2968AUBaXEc3MIPc+U2_d~a!Na9Ya9f|aZg]a^FacaoauPb(Gb*BbMiLbacXbk8c$8cjao
   d%dPdjb4fnb!g+_g<hEj;efjzg>lmmqm!n*n?ds454799AEGBIisMciPITbdU_UbfWOYSa2aXa2c7a2j4a>e)aXcva[a8acC
   aebrafblapafb$f1bBbnbDaabRi9b^Ubcdjbk3c$1c1cZcdcZdBbLhydOmNbzmdbunPnb225371MadWa>Ya!ZEa,g(a.b;a2
   Ia8Xa8bma8b~a>Qaaa8apkIb,dWb,feb.aZb0Ab33b8GbCnabcc)bdnRc$2c$3c5mXd&fzdzTfOfdhlKivj)jJbQjeoKk4Tk
   Sbfl=aYm1loo$id5591JUOazXC_H_V_cSa!e,a!fEa*Ka2Xa2ala2bCa>Ea>PaXDa]SadCazdbb+Nb9bIb9c5bAXbCaqbYgU
   baCbk9bscvc*bNcA1cvp(cw0dza[dzb$gNe9g^hEgyEifcJiwfPjteXmnb1n2kfnYlN-dIAbqBICatCgUEe[JAMawSPSc,TU
   Wa|_bCa!dDaZa!a]aqaaclafbGamhkaxCazdSb!acb(b)b(bIb73bEjhbUn3c$5c$6c$9c*ctc=ScR0csNdKl0dba4iJn.if
   TkUTnhnio6nDo8pUoUfnoYhlp5c5-9115064677b3CACd>EazSAThSVdnYaxa!iHa2b,a2cga8fNaEOaXRafEahc5alSargK
   b3jLbRbQbph0b~McA0cA3cTd6cYiXdfiLeJMe^l*f._fCDg,htg3degifKgyb*iUnLj7o+nQoEngmKoipR-b)181920334b3
   DaZJb+Jh(KdSO-a!jNa*Ha2bGa8Oa8bCaEkua[l5a]Aabg]afIafdfaqGb(bvb*f1b>AbOe;bVMbjNbyb,b~fjc2McA6cab9
   cib(czdFd%hSdZIfB_gcVhT_j&aZjTdkjxqRjyimm8PmYo=oantpbk]pfoXqWqU2b3404493AbUGIGabIa3LcCMa[MiXNd;U
   UYcJYkea!bba*e,a2bba8Va>b)a>eLaXTaXa!a^cWaaKaab+ada8afbOaqKaqNb8ecb9GbOlPbsbCc$7c+PcDEcIFcWa]d1q
   rdheFdxdOeZclexarf*b!gcbWhrh*iCh)iQbnj2m2k(ark1jwk2rQlebGlnpimGp8q%K15285b375799b3AazBBDbfEEEHEb
   4FgFKOLcVMaYMh.NYOcJPoGUcJXa>YNYbNZbO_Ja*p7a8bja8cHa>iaa>qoa^Oaacfabd=agAatEatbuaub9b%b4b+fjb.a2
   b9g8b=lHbBLbELbFo2bVLb^3c(dUc+DcPo3c^AdC6da8dec.dy_d|e9fde4h,nWi!azi=cSiDRiDrPiZsEina!j~i;l%Znzq
   sp)eUq)qvq5qtqJrVr5rjrUsPrqsFrssJr|sRr~sOsKsSsQsUsTsVsWsX-pv-q<27898b3Ca[Oa[PaqPfKSaqSc)Ua*WaqWb
   qYaaYbSYbn_fRa*Da2axa2hja8ffaab*aba[axKazbTazkwb!g8b+Mb9bWb=Mb=XbEGbNCbRltcA2cA4cA7c]_cel~deduf7
   bDfUkPfqbngllxguj0hbmehyDjEbWjfkFk:fPk~Hl9cUo,k8oObuq9j?sMpe1b325808294Ab$Ea3Eb$Gg)HHHb~I_ObnRbM
   Rc9Ta^UGa!aaa!b)a!gQa2a]a8Ea8b!aIg&aXa~abbNaca8aeIapd*asDauOb=AbDGbaVbcgXbda2begLb~nEc.a%cH-cR6c
   Sedcfaqd&e*d7fgdJjbdQTda7eGjUfWqlgZmPgod2h6ozhmpDk>agkEarkTb*lBijlvcVmDhFoFPo|bQq4fnr?aYrYsGs)fZ
   sBipsZb^tHu(tte013173b343546074838586AHCalDaqFFI-JevKabLa^LadPUTadUEUiPVj8WaxYcva!Da!bea!f8a$Ca*
   u1a,b;a2aoa2bIa2j,a8d]a9g=aECaW3aYMa^e1ad2adhsaihAalb)aobPasAauc3awffaxMb%beb,Pb9aab:e;b:gXb;_bD
   WbJYbMa8bNSbTd2bWTbYa[bYatbsd:c,a+cQDcciIchDd%ryd:uvd=BdPa>e5c,f?lsfseRg!a%gtbigze8hBoAhmhFj,-ld
   ijlgfrmld>o]m;pga[qSv%qVXs(d=s8cCtgg,uLacu^myuem723707397AaaBaZDb+EFEbCFa[GEKUQgjRaYRcUSa*SaYVYV
   arYbE_I_bx_rJa$fEa*Ta2c2a2mEa8cIa9f>a>d]aEj]aRfHaZjra^QadSaodlara!atg)aycJb%kPb(Yb,Lb9bCb=cWbLhA
   bSSbVd:bab)bbh$bfGbjMbrOc+Mc.jBcA8cIScIkmcKe&cKe.cKp:cQbucaabccahcga>d)u|d4krd<crdNb9daeKddd$dtd
   Ie*fheSk,fo_gLmtgm2g|dIh!dIh+afh=_i1bni3d>k0_k~g1m&sxn>n=nfrfo.j(sNiZu)j)uBfsuJoDw)wG-cw-dM0b310
   263b74b76b377CICj*DauEafFoLHbfIazKbBLe5MaZTLUb+_a]_bGa!bCa$Pa+cHa2i+a8b(a8bDaXNaXlzaYa>ada2afr.a
   lHapf%aqJaqTarqgaxDaxGaxTb(Kb0KbGaabUwFbfSbjBbpOc*dPc.a$cA5cA9cTcJcoTcvaqd*d<dBszdL2dcBdnrZdxgre
   2b.e=a>f!a!g<c4gebPgecigpa9hJcUhWkChXc6juaqk[5km4kxb*kxb.l3a]mVcCmkbxmoc,mvmsn9phq(v(s*adwZbQx+x
   I-bX-bk-c$-cA-cR1b72b78798AaEBaiCmtFfwGcXHbqIOIb!IbEIbIIs5LodNjhPdUSa2UbSUbnWarWbUYbqZaq_b9_bO_d
   ya!bIa$Sa&gsa*Ga*Wa2c3a9Na9c]aYeyaaNabAabYabw&ada>aebIamGaoPaxHazg3b$jlb%vmb(Sb)gXb+Kb2bIbAWbEJb
   Ga>bRb)bRdlbTwjbYbdbaMbcIbia2c%Pc(jic,a!c6a2c8x(c?eLcR5cZCckw,d8dMdzWe%hLemstenazepcDeqUf4dOfF6i
   AEi|bdj?p~jtfbl[dlmJg:mSeqmmebn6dApFmspdaXpjs%qAj(q~OrXllrud]sAq?srZu%m<v:aZwHydwSarwyw+x;xYy*aE
   yIy+0b76162657b795AQBa|Eb!IbnJJKbGLazMbuOCOWObSPeJPefSa>SaoSblTasTb9TrMUbdYaZ_fHa!Za!d?a*i^a,c.a
   3Ca8e<a9dYa9x9a>dxaETaEt=aEv0aW8aXd3aZOa[cla^RaaSaa_abCacd<adNafgOajv6aobWaqCasGaxPa|Yb%c;b,uIb8
   bdbCrCbEbLbGu*bIbvbUKbYbBb^7bbObjfNbogCbom5bsjWbuf(bvc,byAbyr&cDGcR1cSa%cXawc|Ad%acd&gIdAYdZv=dx
   z8d|fMe&a2eGxfewcRfqcJg&z<gld7gtc6h%Rh,EhCfmi4a%iIali~nAj&zijGygk4b$kXegl8v9lLoZlgbvmga4npcUp6li
   p;OpZuaqdbIqpt+s0m[t<aYuUa2v$x4v5btvyb9vzl+yCc]ykzuz7yiz9zo!=!4!?v[-B5b763666b78b790Dc2EZEbDEjbH
   UIaEIgDKatNbLNs1ObEQARaiSdFSt7UaEUb$UbPVheWb+YaEYaoYc=YeI_al_bR_fBa!Aa!b!a!c=a$dDa%rLa)g!a8aXa8a
   la9e=a>dYa>f>a>gpaGkuaW9aWfLaWfVaWgbaXavaYAaY!ba]aZa]b*a^Xaap%abMaba]afcsaiUalc)axBaxFazenb:ufbA
   bHbCbQbDa>bIIbI_bNi9bRarbTfrba!|bcisbgaZbhdObjfjbm_bpUbqKbxHb~Bc*b)cDh4cTeecmccc|Yd.cyd5dsdBabdC
   5dV$=ded~dieJeByhemwrezabfC-fPIfltFfwbLgArvgHkRg^k%gtegh8g.h:bPh<_hp-i]2jMa%j~iIkRarlMGm>ccn1hAn
   <Dn<i0oMn|pT-q[weqfcVqhb*qji*r<d]so$nt4h|tW!ttYaZtan6u.4uWxxv1b0vrbPye!%z:!qzzyj!8!<!ma)!rh)!s%!
   $:cI%)%(2hV9b7AWBb,BdUDb.EbnFAHauIgWKb.Lq!OBPacPtzRfsRr9Sa8Ub!Vc5Ybf_Q_e=a!ana%dya&dya*Ea*iHa*ml
   a2ana2b|a3bIa4c.a8Ha8c2a8c7aEGaYbraYhgaaDaacCadaoafxKaiAara%atadaxZazcHazyRb$cSb(a>b,cNbBDbEAbEZ
   bIaXbIbxbSMbSTbYwBb]eeb^fVboawbqMbqSbrbDbui3bxGc*bdc*dGc,a$c.-c7LcIl!cMe.cMfvcR2cSnCc^Oc^Ucmj+cw
   1czblc|ahd5SdHSdNEdZUdluydsZe*ode.a2e3Ge?zbeCZeSb0ems2eu1f!iYf(dXf,e4fF9fprAfxAgdtOh7fhh9eXhUaZh
   nHhwbwi!a$i>b*ioa3jCark>tpkXfvk^y9l8dWlYvbl[e8n1bun8-o.bvoIb+q2-rHdXrIbirSj>sIkbs[q*t0oRt[o4thd;
   tj$|tykQuQzcu]j0usb(vd&Rvgaqyct8z|v)!>$~%$&m%%%+%UbL&Phs-b:-$%2a2Ab!BbrCCDc)DfIGi|GwEHVHbSIBIdfI
   dkJa>KauNasODOVObPOb~PaaPauQbdQcrSgwTa!UAUe)Wg$YCYbUYbj_ao_ba_be_q6a!Va!bVa!k$a!n,a!v&a)i4a2b8a3
   c]a3iUa3!da4e=a8yXa>Oa?e6aEn;aWf=aWhaaXa]aYx*aba8abnmac_aca>adyuaeaiafc9anxjazyfb!o(b,bMb,lzb<bu
   b=TbCObDHbDaEbEEbGxJbIb)bMjBbQdDbRCbRc+bSKbUBb[_b^dIb^f&b^fLboa|bpgObtSbtgmbxMbyabc%a8c(cjc0gWc<
   gDc=KcDhzcIKcJHcMe&cMegcMi?cPjBcR3cR4cR8cXbIcYIcfa!cjr6c|gWd!t:d.bld2hgd7cgd8(ZdLgCdpagdufze*d;e
   +bse9a2ePwDeZEeZmTesk6eueaeyaaeyadf!a$f,e1f5aZf8-g2MgQb|giadgraEh*dPhNZhxMiBx^iOaEiwAi~t3jG%=jVb
   Cjfw5mrf9n]jUnfhwo7&soIb*ocbMpc-pddUpjeRq1cSq>_qmh+rip0t6(Pt;twuX)Xw9eWx0sYx]aoybbuyzjszDjiz~pY!
   +-!cu0!p$y$UeJ$YE%N(j(G%&(J&p(ysY)W$r)n)p4a!5eK696eKAbnBbBBc)CkrClNCqnEVFaqFhUGaYGwxHMHv;Ia9Ib%L
   bqMf5NcVPb,RazSa+Sa9SadSbDTdiVbUZauZbG_gga!Ra!bDa!bxa!c9a!cHa!d~a%dDa(dya)i=a*cHa*nJa*wCa+e,a2b9
   a2baa2bxa2c9a3o^a8Ua8b9a8bMa8xBa8$1a>baaENaXGaYaXaZa2a]Ia]a3a^bGa^d7a^d]abIadd<adhKafaYaiYajjsan
   d]aqAaqfjaqp!azPb(Cb,Sb.afb.dUb8Pb9-b=jDbEYbEnAbQBbRalbRbbbSCbYjsbYqnb^bUb^f=baadbdpZbfMbfTbjGbj
   Xbparbrb*btb)byHbzZc%aac+bcc,_c8f%c=aacBaqcDbLcEa[cEkrcHrzcM-cR7cfcrcib.cmoLcvbUd!a[d1Od7l!d9b$d
   :aqd:qXd?phdC4dEvkdGlVdOg4dPKdi+adpd*e(ije+XePKeudMeuf0euf3ey*>fEcSfEj>fF8fINfQcUfRm,fXclfqb+g8d
   XgBaagElOgJlTgLawgRa>gdbDgte.h,clhBjyhogWho%7i3bBiAkQiB-iEwfiYMi[bPibc:j2&Mj6Ak9e.kO2kocPl=g%lJu
   $lSf%m>$+mFdembdBnUb,n]&8nde9nugWoBk,oncSpxm0qAbvqpxHqubzsHn,t>&kuVncuZ+Vw$arw2h9xvy,yMh:yVn7!A,
   C$;j($V+U$q-&%cU&DyF&rae)CH,Njx,Pau0eK2iSCo[EcZEl7Fb(GclG(bHa3HadIahJauK_LDLauLb.LbuOa9OuxRacR,G
   SOSb>Tb!UCUhiVadVawWa^Wq]Yc(ZdNZj$_b,_bT_cP_hTa!bAa!c7a&n)a(g!a*g9a+Ca+b;a2b%a2bNa2bOa2cBa2d(a2k
   sa3Sa3wTa4g=a8b;a8cPa>Aa>ZaESaEXaEgJaIf8aZAaZcza]b~a^Eacm)adOaeGaebpaedkae,zafc%afpQalPalbwalhva
   qSar-ara2axQaxWaxa]axb)axbeazmMazmWazp2b!_b!b$b%d)b)Ab)kdb*f<b+Gb+Zb+a]b,c:b35b>f%bCbUbCy!bDVbDj
   qbEIbEObLNbLaibLo*bNDbRg5bSPbSZbUb~bVdnbYb8b^8bah6bfPbfZbgPboUbpq(bqCbqPbrEbtb]byIc!+sc%Bc+a[c+b
   Pc3bSc7Hc7bDc=Dc=zZcDiscMm|cR9cUobccgMcegMckb*cmEcrbLcw3cw6d&_d*aEd,_d8p,d=ved=zKd?hndC8dJdndKfK
   dQb$dba6dt4e$9e*v]e+Ie3m9eCl?eGy>eSa.e]Ie^1emd>emgUepafesiVew1f1Tf1_f4Kf4cdf5a]f?acfDOfF7fMa>fTU
   fUvEfbf%fu&cf|_g,bQg<t5g=-gT_glbqgpa4gra2g|4h!4hZ:Shc!7hqbdht_i6a+iAeLiHmCiO$eiYcdiZ,oj+lGj5a[j9
   ltjVSjnf<k+Kk2v]k9c6kCy^kJrOkodyl)FlObOlRi:lbsdlyl^nB2nTaYnwrHnxulo%kFo5a8oPu!owe;prDq:a2q=hTqub
   Gr0abr>fgrmo%s:vps[$8sp!1vPb)vvg9wVSwm%2x,kbxXm6xwr:z$-!6c8!B;V$Eg)$QcZ$Re3$XM%6jV%Jm0%bx=%uvL&g
   e)(9gW(L.8)=:o)[uV*!a^+HcB,vgX.ImU:9bv;*:z;Mb3-kt3a>AbCAhiAvpBbuBgCCbDDcQEXEbSEcJEy;GaxHXHaZHbUH
   dZIQIaqIb+IbCIcgIdnIe]If]JaZKacKdmKnTLJLbULbmMabMgONNOYOb$Ob+OhhOl~Qa8Qd<SpQTaXTb)TbEU-UcfVaqWb~
   XEYvuZzA_X_a[_b8_bA_dP_mja!Ka!La!Oa!ala!b9a!+va$foa$jNa*ata*d~a*gSa+f8a,eVa,gHa2aaa2aca2bBa2e,a3
   Na3b;a3cHa3cPa4c]a4dYa4f>a4:va8b8a8baa8oQa8rKa>Ha>bDa>c2a>d=a>j1aAllaEEaELaEMaERaWlZaXpBa[d9a]as
   a]cxa]dja]fwa^La^bzaauhaba!aba2aba>abg)acNacbWaeidagasaoaXaog%aqbIaqcWasaaatbIawgAaxksazfNazmAaz
   n;azv4b!jdb(Bb(v!b*i^b+Tb0l*b3aab9Cb9Yb=NbEh4bGDbHc,bITbIi:bJhsbLKbLg8bMo3bOabbRFbUfjbVTbau?bbal
   bbb9bdd?bd,mbeCbfb)bh2bnMbnRbqGbwasbyfqbzd7c!)uc)n%c+b)c,%mc2Gc7i:c8&]c8;Tc=uxcD$<cEEcMpkcPt,cXU
   cXa2cYkYcZScrOcw2cw4c|hOd!l9d*a&d*<~d7a>d8aYd?,qdC7dClZdKq?dM6dNcldQb!dQb4dVzadcAdcNdugIdx<qdy&E
   e!f9e$7e(b4e*cVe+=Ee.Ee2tce7hde;a8e=m2eCeyeXnNeZw<ebf$ecwqeofrew2ew3f!a+f%fRf4zVf7bIf9g:f>YfJr8f
   NvjfYaQfmb?fmgUfphVfzBg2dvg4gkg9zPgAPgLiMg^l3gcdlgil0gmlqgna^gte&gw;:gxadh+;)h6eJh?kZhBk,hCaqhLb
   0i,9i2c2i:pJi>,%iAb*ihb)iqbXiqbkiqc$iqcAiqcRiqcwiqdMirbXirbkirc$ircAircRircwirdMizkNj5qYjE&3jMvV
   jas+ju%jk%a8k&aEk&kbk9-k:m%k?EkAJkGa*kRb*kZvak]bzkanyl$wil&p%lY)&l[g5laablnpalv![m?e3m[xCmgkvnXa
   8n|dGo*b.o4UoJbQoQtMorrCowaxp$b.p4fcp6n+p>cUpgk3pxmCq;cSqBaurFb~s$YsCfot4s+t>=qt]_tydjt~biu&?OuE
   d2uqb.v7grvFa8vWdGwazQwgdvwo+px)cUxbGy=dOyG7yakwzj,W!.nJ!QI!yn=$)b$%>ou&hfg()ib(*;L(1,x(oa*)Gk$)
   Kd7)sq**b,T*g;C*xab+<bU,:?;,Hv.,SzU,f(Y.Lbu.~m):M%c:Xg(:q)d;9jW;R,7;g<p;psk<B;P<ra4<s>B=daZ>RpJ>
   Sjl?:b>?naX[C[G[M[FA-AZAbIAb|Ba>BaeBawByQB)7CclCjsCmyDa2DkjEa+EaXEe<Fa|Ff)FnVGNGb(Gj+HbjHo<IIIbJ
   Jm5KKKs.LasLbfLblLqHLvhMPNb~NhsOa*ObCOcNOl]Pb+PbOPccPhLPmPPq&QaqRauRo!RtJTauTazTdGT;+UZUa3UaxVaE
   VbrVvlV%tWGYafYd7Yg4Zfp_ad_an_b(_c]_d&_j>_oR_,4a!aoa!bRa!g^a!j[a!k^a!q8a!!;a![:a$cHa$j1a$%ya%gsa
   %tia&g!a)lka)!Sa*bIa*x1a*+da+Sa+c.a,v3a.c.a.v3a2bMa2bea2bma2cPa2uka3e=a3g=a3gpa3pEa3w=a8aoa8bca8
   c3a8dAa8dba8dya8i2a8:fa9hca9t%a>Wa>cva>d(a>dja>e;a>lVa>;%aEBaEKaGt=aG)waLe6aW5aWdIaZa8aZaaa[$Pa]
   aca]tma]zQa^Ha^Ya^b9abPabb%aca2acaZadKadb$addKafKafg?afhgafy%af&iaf(zagkQalbVale(al+wam&Yam[wan)
   maqi2aqsfasTasaeasc(axbCazicazndaz]8a|Ab!*4b%Kb%adb(Wb)eLb*z%b+Ob+bjb+vEb+y^b,Gb.a$b2g>b3cAb8,|b
   9bvb:Eb=-b=b,bCc|bDbPbDnIbEBbEaabEf,bGaEbGb!bHuibMPbMa3bMc)bMx7bNbPbOaxbOb+bOjqbOl7bRXbSGbSg$bUd
   gbWLbYadbbbNbef?bfBbfDbfaxbhd=bjSbj?Sblc+bnKbo1bobBbpBbpa[bra2brbCbub0bxTbx^tc)Dc)c2c*hSc+e1c.a8
   c0axc0hOc2Ac3=Bc5gwc7r%cDascIaXcIvPcPa!cXd<cX>5cYcbc]grcfa>cgbDchi0ciDciabcjcCckIcmoZcxGczCczOcz
   jfcz;Ud!atd!o[d)c)d);ud*_d+f(d0z?d0$(d1dPd5b)d7KdC9dCh^dJLdJc3dKm(dLeadNeFdanBddEddasdjCdm>fdpn=
   dt3dzbxd~dye)Ne+Me+Ne+aye2cUe3&qe6^Be9a*e<q^e<<6eCHeCj|eDpTeKg|eKh!eQa8eSoMeSqqeUn7ea1epe2evIevb
   =eyoHe|Be~bJf+bnf1b$f5b*f8p3f8u,f9a*f;azfBy&fDakfN_fRx3fYa8f[a|fg;<fmd>fnadfpPftf3fxbUg$)og%e!g1
   q^gJbugYaRgZabg^c4gchUgmc)h$wRh,b*h,bQh7a^h:Hh;aoh=$LhBqqhCfIhO3hbThhaahjeDi,nli:TiQcJi]aeia&oi~
   guj7?Ej8$7jAa%jH+Bjrb$jx^&k(aZkGaE"

def nameCode : String :=
  "!vcz]$clEy]a$$;bvnOgu%x[5a$d?iIa!|Qa!$w]!om$ta$gsx1a!xFd!=Cm]v;-xDjFoZ|av9a!gg[xdPa*e=a*g=a*c]a*
   gpa*dxc!d3a*f>i~pK[Y!i)u(E%xhmSa$sHwC|dw[C:Gbr?c&nuOu,a!rN!)a!c.u,d!;(a!bme*pK?8,A&nom,Ma!tnpKd~
   ,Ma!k&cLu7a!dz-gcgk$hclkJEy]d!aw%xc=dWa$mS]+Ya$Yacf[b,<5fza!sxy?jab%yEbdYc.c,jF+Csst^d$?Jg]uOx:i
   +s7,Oa!oWc,cz~D*<<ZGc5ahary?kGuNf?E%xmo-xDcz)^e=a*c?cl:=b*uygxbub,c,wdciCcOgxh0bTd!wrcz)^zBbIgLc
   jsst^d$?Jg]a!c.x:i+s7,O(Bcjr$cm!5?<fRa2$ZcZkJwC?crd*)?=mMaEicgzg5jDCemarcil^ps*)mMa8wX*)mMtUa]cr
   az:moh*)?=jab%cZM,;c,?cO&Wm9*)mMkBaz:=.gj&gTimg?Pafb^az*)?=mMaEicgzg5jDCemarcil^ps*)mMa8wX*)mMtU
   a]craz:moh*)?=jab%cZ[<c,,AO&Wm9*)mMkBaz:=.gj&kB.YbZrdkGe3rdrOe3rd+be3C=He3CmFe3CyUCyJv,De3D?Ppsk
   Ge3psrOe3EyUps+be3EyJ&7mF&7azrO&7yUG;]HmFe3H?PwXk&e3wXkGe3wXrOe3wX+be3ImJi7y8Ijy&5vSJf]JmFe3K$Rh
   Bevb9bZyyn;e3L;]LyJe3yymWbTg:L?PN=He3N;]NyJhBottz+.kg$w]!bZj$f]ohkGe3ohrOe3ohcHsIeSjy&5ceEf]*Dn;
   e3R;]RyJ~i=H~imF~i$R~iyJe3T;]TyJe3Tm?:Uk&:UkG:UrO:Uic>Zm9cHsIg:m9+b+~)?mFv,Ye3Y.Ym^=He3ZyUZyJhBa
   8fBafdLm?bZBl:aEnrebe3TdPv7hdw4b~Cl:e3gjt$adithWl:aEnrebhBqilRbDbZj[b+SbCsiw4b+Fl:v,Gfw)4i7&~bZ!
   PaqIoIy1l:hBfsazeb]sBc2m?bZpuMcrwoe!i7NazfBn+y&bZohmW?=p]e3O<3Pl:hBePi1bZ]1e=hdi]ePj[i]_zRi7T*~%
   T~Wk,Tap>v]0o]a8m9p]e3nXr3l:a:Ye3Z?PEiRa>mHoBa>gSx8ePe=m?bZ]1gpoBePkJ&|oI.UrtNd8awaYbY:3a3b(ahaY
   a3aYbWf6aba3o]bZkcyJa:Dapm0ZuRb0kcbZ<8fsapm0Ji7<8bZNJcrapm0Ji7NJbZAyJv,Iv,Ov,U:U[KerjSkbm9[K&]m9
   [KbYstkbm9[Kx,j3qiEbZrd[KerjSj3oAAmJ~8k,nmap&7m?&7yJv,Ke3oh+be3oh+bdekGkbEiRyJhBa:JbZkchWapm0Zi7
   kcbZG=He3Hc|bhj8rtNcrazt6e3rdicjnb>sI~8k,nmap>vO)eb>kbrdcHx,g:rd;6g:pscHx,g:ps;6g:wXcHx,g:wX;6g:
   ohcHx,g:oh;6g:R%ax,g:*D;6g:m9cHx,g:m9;6~9em=Cj^[>Tg:YdiHf]HyJe3NazfBn+y&i7D&;bZdQf]Zl:e3AyUE;]oh
   [KerjSj3oAoh?>OyUOgNyTb>erjS&:Ok,YaphBfs&;a:Na:Ta8y8JhWBvUa9QPbZAm?a:Ce3yyebd%azobgIgTimo&c|b)x8
   a;ZbZ&|hdB&WUfzqiVtUm?v,J+~+c%Dl:x8hBdpbZRm?v,YhBqiaqrWa9z,dLl:a8w4b~C&;hW=GaEe!a8j[b+S^la>j]e!a
   8fodJa:mHaKj]e!fmo[j[w4b+y8J&WGl:d)xXGa+[%i7xZgweJb4p]qie<jqe!a:Hj$a8I&WnowAvSi7yymW?=%zTaEv4!ni
   RqiMv^~Jd<l:xwapfYaFo]wAcDi7>QcewAceEi7,Z&j+RpuRv^~JaKe!jGaz~JaEmAaEy6e!a;mHwAe2a?tvgTiml:a8i]a8
   y8J)eh9e!d)bctEj[i]a8i]&;qiTd%=I*cfza8nXr3l:qiqsYa+[%i7Z=IaEmSLtUiRa>gSbYs2eP&|a2cvx~cWEg%w$bQFb
   Npqaoe8kJ&|r2je$3Ce|I=Kd,bY:3k0h<boi7,ZfodJwAdBl:<xi7J:].RmAqiKwAe*i7Ql:eP&|m?a6mHi7kcvUa9beZe<k
   cvU&;d%b4rJa9bxb)d%CvU&;jcj$vUa9L*FLZePp<=Kd,n9CcCb%bWa3Bf5awaYi7pujqy6e!aQb>x8v1+c_jTj]e!a8JjGa
   9z,v^e!>b_kJRj8kBdKbNbV<nd1hSp=hx$wcvaxj[p=hxd~~Ma4b]cJ&|a4mH<ktla3c.a3bM<ocE;(d!st$ztnn0kGb3CgM
   b*uya3jEe8$?tnr:kGfwb9&3a9:=ax:W+3a4fRcEawf$nN~Ma:b]cJ^x<odKr&c,a3xDf[albWa!zpa$ica!+ba!umk&*Rj~
   gMb*uy$ztNhsm;cE(cuyk0dBcXgwLd)oDa8j[&|d0e[+)f|%weba4f|a4*Aa4bma4p?+)bmk.zEbe~lb.%wi^a5,ya2w$s.b
   Ldnnqb9d2wf$wcvax$?cPoleda9bMa9f8a9|EiccYh.dBb9&3a:cHa?:=ax$?fUDaxu&[YnxGzEf|x!a4g,a3c7GzEbma4g,
   gEe;Fa3fo]ef%cS)9?8a+n;.,iOa*k&a*?DfNlaa*rOa*zpa*mMa*>Da+ic*Wj~gMb*uyajsta*tnssfMa.cHcxb9&3aj)ca
   *;6a*pup=bIf9a,a,mHy2jnc.a*?8j^a,n;*Z^mz5r1eU~Hp]r1~Mj^a+^xa,cPa+xFa,xDa+P%TaYd+bQe!a,o]a+bTa+mM
   a+ica+p=bIajwra*+ba*tnsse9a+B.tvIa+kJi+abbC.,st.,;(a+rOa,tva+k&a+?Dbm)Ba,cHa*t0>^a+o^gIa,fBa+o^!
   )a,fB<c~Mj^a+kJB.tvIa+!W[^b!dNiva*X~H:Ek&*Wh=laa*jEdl]1i^a,n;a*v&n9oUac$Basa[c5a2%*c*=+k.c=u0a*B
   .tGb*fMa*txj^a+i+tnd;*ZeUa*p0t0fMa+HatOf7hsa+[8r1d~cSj^a,i4xt]*bOMb*~|<ctlf9*Z~MlLaZbIbDa*Xj^*Zt
   lz5a9h9kotle+aYFx3~Hd|yTc.]Yj^wex3a*Z.Kf9*Wboaldle9a8a2kGa8)DfUDaxkJgce8sDj^;bdceLdkiae)Cjw<xiCi
   Dh*a>mYX(FmCbObDf]&TafcXnqoBi~$<aYc,a,eXbZPcXcvYc+lfdh)4oBaWs^0a*)y:tj[LbLbrwUy%f!a5ura6mH*YbZfC
   T!ubXvW=+a+%*k,rWapa*adctbxaXe0bZq3azT=+a:!La:no!ueaa:u+aWof0a:nXa:v8..b0noaz%*c8bZ(T=wxZ>qq3m^t
   mtm^2!Pr=nU^L[]qa[6u+~UtN!ufVd)aegwbD|4+R.k~7&jnoaz%*a:nXi7rWazT=+a:q3a:!La:noa9nXaz%*c8a8(T=wxZ
   >qq3m^tmtm^2!Pr=nU^L[]qa[6u+~U],~,a9wh|4+R.k~7&jnoaz%*a:?Su+azT=+a:nXa:v8jy_cII>V:6a+t.a+nXl:a::
   =b*b>a;mMa+cvIa+nqa+cIIeP&Te]bdiboBn>cay%uRePdh)4uR+fbdibuRn>afcXnquRd!bdhsh<imbO<3hn<3KbO<3cs<3
   Gc(e0uRqqfpbIf]beIuR(Fe]auib>VtNa+LbLbrwUy%ePfCTjy_t.>VLbL+>q3a.mHqqc9uRjye*bLbrwUy%f!nwavafaduR
   a*tNm?>Vm6_j[LbLbrwUy%a5ura6mHd!)tmCfqazjEg5Ib~DqIGqIgdujhLvSb+kcmfc3[pcC^X-gdujhL_bU(;qI<8oyqI<
   Hy1qIwXjEg5!&bjDiRb+hCb+g5iP^a<,iR.fb+*=o^evaq>L(~acu%b+^,djd%^^?rfI,rqQb+n4b)p!H=VkBaZ|3:cc,kC(
   <cgi7hCb+g5iP^a<,iR.fb+*=o^evaq>L(~acu%b+^,djd%^^?rfI,rqQb+n4b)p!H=VkBaZ|3:cc,kC(<fgfqazjEg5Ib~D
   qIGqIgdujhLvSb+kcmfc3[pcC^X-gdujhL_bU(;qI<8oyqI<Hy1qIwXjEg5!&bjkcbObZv8f]Ybrf][2Ehd)hYcCoBoA)s$8
   >v[ToBoA)s$8e3Kb%f]eQf]F%Zf]d+coptf]d+copt%adBb9&3kbgdf]oJ_v8hdv8azTaib8e3gDf]KbdibuRa*lVpD>0n5)
   tc*aib8dK%TaY|ia2g&byNb=bIbDa3eQ*?)&gAaoaxi8_lVpDa3np:2yE)th<imcsb$wXmA~9c%c5:cc,hdaZazuc&7bOazb
   MTex&7bOm?&7bO.Ze!g:rv(^v,o?v,cIe3cIazzlw3cIape3i[b)Kbh_cIhdac(^+~&5_acdBbOhdg4.Ze!g:fWyxb%lfbGh
   ddj(^v,bx+~dpqffhUoBjydpqffhUm?g:bG(^+~&5c*b*,rhdh:(^e3h:azzl~9HbGf]fWyxb%lfh:hdfWyxb%lfh:(^eSeP
   PaY[ycIbZrvazrOe3cIl:e3e;=Ge3acl:e3ac=Ge3yxvyb%lfh:hdc%=GhBfxaY[ycIbZrdrOe3rdmM+~&5bt_fqhdfqazrO
   ~i^luRqq^l.Yv,rvv,o?e3fWyx^Xito?hdwXkGe3wXmMv,Oe3>Qcehd>Qce.YeSoAE:UkG:UmM:UcHsIg:h:.Y&7bO(^e3z0
   m9mM&7bO)eh9e!j3k,bGape3bG?P!QtKbehd[$it>K[$eN>K[$itZ>K[$e*>K[$cD>K[$af>K[$c*>Kj[o?hde;l:e3LbGf]
   RbGf]cgEf]!UuRjy)?Ef]AaX!ZcIhde;.Ze![>acg:g4(^hBa,m6imHbGe3acwoe!g:kcrvf]Dh:f]e;(^hBcLfL9a!$&~Rm
   CeyBdLacfwg*hWaqvGm^aq[bcfd%b~iRb+aabUc+c:oD[bCr=tZtJJqX=Ua8~fd<ackBbUyHkWaqVb~p!g4e<JbOe<lyb!e<
   bWW]mc:!oe<Cb~mZc:fxIWR]pe<Oe<&HcLf&9]Zdp>Wx3a*$w]!a*y=bGs+i^a+E,By2*Ya+u1bvi7pueyBa9dLacfwg*hWa
   qvGm^aq[bcfd%b~iRb+aabUc+c:oD[bCr=tZtJJqX=Ua8~fd<ackBbUyHkWaqVb~p!g4e<JbOe<lyb!e<bWW]mc:!oe<Cb~m
   Zc:fxIWR]pe<Oe<hng1xddJbCkhIc:nwa~mZm?!*qNv;cL4lqa!%yfXcU$&~RdJj%*vc,a&)OfX^d$&~RiteJcLn!5a!bOgc
   W$e_cfd7HtOb!Gf6gEaYb)[acJgBQvF%Dbrr;d=anLuSg4bzalh6jHabQe4kOtOc3aoV*^Vbhcxi<b)d<UQqdcxaZb)eyg*k
   VabgQY(|a^bxc+.bdBEanLe4[PaZb3Td7HwbFUd:cYbLAg1bI%6Ad:cYaZ+WdAFcjdseRvcc)hxbx=thKQcfada^z0u<boac
   khatbSOaXa2ciUm:bex[Zaaasz4erSudj=a*fQr<V*obDFafg)f6&CbDe<!UbIj6:TbNQd1SaZaxb!Gf6dKAbDg1!UbIj6*a
   i2a8bGSaZiYokcka2bcBgMSvXGi]lJbpau<*a2bV%utuervKa*+Gb$b9hntuzdb!Qa*fQkDzEbT.6aatuaff1bydnUQz4_fb
   .!a3eXtu+IwbFgdbGa*+Gb$!U=Wb4QbradcL4k*ePf;nxcJr!s5vXaXcJn%Vck>N;9cJbxcJq7w0_rGa3>fw0_q^a3w0+Ia3
   [Dw0bytFw0c*ptbaa3kVf1oqb)+u.mcLjp9a*q7sLa*xdkhf5vq_i+Vckr3ck_q7a9cHtudBi<b)cxaZb)eyg*cL5f&a!o7c
   Dguc,:^l+Ha*)%oW=MaZ:^gjbzScX]7~tdXf9a!)dbYblb*b,gDa+c]a]a!mdlTb9o>)dn9bpciaXc,a3hc_lVa$gjiPadIa
   !o7uubIso:+qwa*c=Ehs_bJb!c,epbpc5Rf2a|^Uc9nsxybOs&b|a|>&xyHb*[Ra|cX*[H=Wcjb(H_xyn%b9ba_^Uc9nsadw
   WbDd:a|cC:tf|gee<xd:,azi2azc3e<+tddhUa^qdhx!:=rePi^a+q8vTe[a+zrd|]&a+&VePcIb)nKbN_ena2h;Ze^b]azb
   I!Jf9a?mra5ksb3b]azmrj^a2yKmrv+f;nxg1$CbpabBgMaqa2f7g1fia2dSdZdS>4tTaYoqHeCvCl(acgEgXc^c)d8c)a2(
   geCu<=PcxbGlOdA^~nd:kp2e9dd^8_yKkJ]6ndfMaGg=a*bD^ie;ePhng1vK;8)Pa2dbbEsc.2g1ksb3b]erKSbBa^enlLhU
   brada*!3uGa*!:uGlLhUAa*!3a*!:a*b)|Bd.gdbL]X!JHf9a+h;Za^e9):w5f;a*kJ!3z4mka[dBHbLd7a*ZWx|cIYg+d*o
   kf9a;tva8s?a*j[!3lLhUrdx6xud[_mrj^a!)d_jOpKo7n9iIc,a*=ig*aYqwa+lVvNy7+Gd2w%ePy8c7e<vKc^)^f;b3b]a
   gdnl^gSagd[_)aaKe9~)_h;Zdcf;a>ksfkazmrv+:pmr_end1$Cd1bxbOg1c7Eg1bxjqica>p2yTjMdKEg1bxbOg1c7bOg1d
   Saz)aa?ndd&bEend8ena2dS.[&ST~fd1h:bOg1cBaY>4^Ra>s?aKb>d*geg1c2eMd8c2eMd8cj>4.[yTjMa>t*hE&SRalg1w
   nt]okiDb.a>s?a?ummYs?dezpa?x6a2e7g1aljqt*hEfMa3pPp1debTa>p2e9aQh9p2&Ssgaz,<a>p2fMa6(ga6AlOy8&Hdd
   rhgNe(VbQe9aFa2bWH|wjqp2e9dKEbOg1vKmJa?~]a2dAmgc^c|b)_rG;8^Ra>d|&ScW;8.[e9cxgja8gSx3bEmUrhcxgjaz
   ,<cxUrhcxgj.[&Si2?kmYzpa?~]aKe9a3p.svfwHbLlxRp.bEsc^Ra>p2&Smg]AA?$bVwu~fmJa3^~c3e<mUwkj]mrv+$Cbp
   abj5bDdBOaY.5^RdZbhiPd+cetFa2bfhpa3KbhiPd+.5^S&Se8F^8_ena2yKmAa>b;ok.5gN&SaxyKp2e9dLabaleLj])a!*
   ePnm:tf|&5afc)azi2azh?aDvK]qz1,*]s:,a8fia8~]a8pPa*q8btcgHa*bbabo(e2bl|qojd+B:t:p?W<Pa9bMd~.Oy>a8
   y8edhte]dS]q_[J]eafgX~)ercBa^ksa2ena3f|crscgZ+!qZafAJc2Ha*?yli_bmj)nQa*?Wf|j)azbRLouli:t$?dbePDa
   YazkJVa5wnm$e[[?*MthpKo7imbOacp1a5&xa5*::^%VfpbtM>5a8c=bb!2bpaceP^~kJVczrucc_q8(||ud.bMvLd;ab|[a
   ,z)?Md.bMvLd;ab+3a+z)?Ma+du*wafdAxj~Nc.d.bMvLd;ab+3afdAxjfY):?M+3afdAWbQc.ajdEs0qNcbaXadcec7r&a2
   bViBc7r&b3Sq%CcCcL8f3uQj(ePaYdm.6jf>jcJc7=.cXaYfwabb)bLbqDaYhUa2y8DaYhU_bNb)>HeCA[Abx=1abb)bLbqY
   gRe<n%<6g2bIDHcYg*zTl(McI*ne6spg4a3mHc^=sQdm.1b)+uuna2d?^XbobO=1h;aYhWeMhUgZqTbGv+)Dura*ZQaubGv+
   )Dura*RBdnAv+~.$9ZpR_dua8y>qNBdnAv+e9qNBdn[OdjdnhKura*djdnAv+~.Rc|bGlL+CssbTa*bcb).bcga*RgdcIyxa
   *g<:EhE:k~.p2?L~.%:+Db*t|?Le9.+b%Ca*ebald:cLu;9n>afdi+7eNbGoHd:dmjcclo7b0c7jqp2drzOj^a>s?dep2:kp
   2+omBe9aQmBe9dendfMa?,<debTa>tvd*okj^a>b;oka2dS^S:kp2+omBe9>4^S=YzOj^c8d*gejTtvd*okj^oqHoIaxpPaz
   t*hEfMa4vCaze=a?p2+ojMa?nd=YzO|wjq,<a?p2+oi4a2dAmgmJa?~]aK+omB)DdbmJaEe9a3p.azx6a>b;geHaEV)Pazeb
   oqjqnd=YzOf9a?mra3pP^S=Ya|m:dS?ko7b0(gj^aQ(gdex6a7pP?ko7a7wn?ko7a2dS?ko7b0(gf9a3~Ip?[?(Ae=aRg=a3
   F^8_yKp?[?(Ae=aRq6g=aQq6c]j^.5azp?[?(Ae=f9aRg=a3enfzalpsp?[?(Ae=aRq6gfdSazp?[?(Ac]j^l(acazp?[?(A
   c]f9a>kJV;8^SfMa!qTl+b0bGiJ|Zglxascbfb9gnA=2bGh6:ucIgjbfaYjrbfl$ckbfdbbf%5gj|0bGaYbfqTa^b(cXbfd=
   gjvsN|Z:upPbfc2h6:uZ|Z:ubDh6:ucge4|Z:uJ|Z:ubC|Z:uTbD^4bGfybGiTAaYbfgBiJgXbfptc)wWc2c)wWT.wO=Pvsw
   xbf!Ugjbfc|ckshfWA[.AfWn$[.Ip<[.rgc7E[.blU[.g$bAO(o%Ic7(o%IYc7Y[.ObA[.Ol[A(od.gdbLePd7AcL9m4nOKc
   tjOd;ePa^l2bqaxbfz!bSc2nndnxzf,e|e4d5fOj!dsa^zxRf2fJBnSfya^uDd7agOjJ%k)MlxbzWu[NcgagOjJbSJa[hKJ*
   |b9^eb.[&f|x!a9bma9?pa3qkv:b.nQa9bma9?pbEdnaYd+&>wfzpa*f|%w$w]!a,bm$JcectD=9accxBgkbBbLacy2%Iy]a
   *b(JadYaYadfFyDsoadbDYaYada*anj+EuwbDo<czcXabaiadb0aYgje|aicxcXadd8%ToCYe|AjH^9aid1aia2hpcJcIgjg
   2&vcYg*zTc^b.Abr<hf^d1Sn$bam:bcF.1b)gEwlbDgjz4l&<h-aYgje~&wd(m)vXGi]]Zb0dfmehskhgMa,i^ncfBdJa9p|
   fBbtAa9fBa9p|fBbta9fBa9a++dimcsTa,f:a8qkUa9]Zb0Ia+f:!ga9oFeBKbLz4rFbc|HfFf06a+]&b3FSn$Qa2c(are|n
   Hb3TbIA=jIYcgaYn$uQj(tu_bVb8p%%DaiSjHI!UvcaiSa^gBvFd1bBbfabcIadwzf1erb)%5|;add7nHfF1h[gxq[|=eMQe
   ^Bb3Gb3Db3Hfkb)=9e^Za2aib3ecb3KSe^Ka2aYb3Ma2adb3xglOaub3SZb3Qa2abb3b)b3cJhwb)=9fyc)=Pa*gjFt$&>a+
   hG|ia+G+Cf(fFky2tufFky4czruccb0rmeyaYcXzfwp;Kecr>lb<=N~jlyd]aqd]l^b|AfFkz0a!o7b0~I%s$3*8AaFnrn+a
   >d~rngIaAf8a>%s$3!:aFlpn+aEoJ_zpaEd~oJ.!aGf8aEoJ_s?a>zpaA%s$3nrnN*8Ac8aBd~rngIaB%s$3lpnN!:aEnrnN
   *8A+FicaBd~rngIaB%s$3lpnN!:aEd~mraFf8a+bD^ie;=F$|a>ksa8,<ePa]zEena*i[b!t|oJ.!a,o|arePp.aztvd*oka
   2dSaztvd*okj^a3.nbTa?~]a3dA^~nd=YzOa*d&x8fF1haa*c=dWdXf9a,Pe0=efF2bX:tf|=<i0aY-ogZ]e=<i0i|bIcXa>
   xbaYdcbDb)Ee;]X!Jagn$l]Bd.)^f;bpcNbGb|dn*WDer!Ja+fRer!Jh=eP:5t]okj^a>)aa3fiazx6a6(ga4&Hp1degfvKp
   1)P%afza2db.[fMa3yK,<demraRh9bToqjqb8tfkssvaplOb,kRcg_en]e:,>4.[e9a6sgcxgjaztvkIax=fcVs&WeCvCazk
   JVv+vC.[e9a3rGsvkVgjp1c8cDcthEfMa3:5?k:Pg4,c$Ct]vT,cwnt]mka[a5yK,<c8b3Ft$ad:Ae<vKcrscdKrht]oka5$
   Ca5T$Ca5T~fa5dAmgcxwx.[fMa6gjt$lfvKa6fiaKe9)P?ko7b0(gv+jEFgTcm^8_jkf|a8enfzalps,<j8t^afAe<gBHa*?
   !oJ_zpa>e9a+eBKbLa+iAw<a4oJ_d|=4:tbms&W~)=<i0ab-Rbl|fb^aam<gjcrscaz!:a5bm~)agt^bta]dVaYhUdcdnlYA
   Jc2a>ad-Nc5FhrgkbDoGjra>c|Q*7)%oW=MaZd)b[afgjbGa*bapCUfrq8btcgHa*pu!3j^ajbBeqcmhUa^qdhxvyh%*8brw
   l!3uGl)Sb9uG?sdGzpa3x6a3b8tfdGs?a3x6a3zRa*focmhUbrwl!3uGl)Sb9uG:tf|s&WlLhUrdica8zpa*!:p1r1tlf9z5
   r1tlj^z5a*i+d~tlf9v^bTa1a,!3z4afeW$Ib4p.dBHbLd7uN,udN*r+EkJC)ca3a2y[n>[&Aa3b3l*qtiZfscEjzdJ*ba3b
   3:)jzce*ba3t>fdf,<=e4q?zxk:*q*qLfP;Ig+ceb+g$EyL[9fmjzdJa9o^a9+5Cjzcea9o^a9)og+bybNb)qTbIz+_b+%0<
   ba*=eb|+EgRbri:adgR%sa*?8a+n;g+bYjz_qkb+w^r+EePQa^d:bziP+Bg;DbzRbzF^5e1;o$skK&fk8f|$hcUbTePCjz_s
   !axg$ax%0fkaxr+ugabWabtKcBjHbzs>e1h4fOJfJwE.3Dgni[f[j$mb]?l]ep%my[fF4gb)EfsfF4nkspkNfF4jpe~?jfFn
   k4>8b9fFl12g2fFl16gEn.k]bGfF4hayL[9fF5cAkCkNfF5f3qP)oePd:q[gefFjp9a*nH^IfFh^4ePRzxbGfFh^7k.e1;of
   F5dIkKePb9.Zoba?eXa*tME=Mc^b[ajbB]+YcDbgnR_kLa8dPamlza]lf$!Dacataag]d8acataag]?qa*c5b)abxtq[dXeP
   vQlT)Y&fd.b>fpdXfFda1k?bBg9d:Ic,btc2Kboaabaa3esc5s%fFda5ePq5oar+fFix5d0axkNfFix9e~O?jyOc$>8b9yOw
   L~ekeyOu2esiJAyOkzc^*oyOqEyL+yyOo9mGn2r+yOfVa8?6yOf=a8~VyOmQfkc2bryOlrePd:bziP+BzCb9yOu6ddAyOyok
   Ka*y(nqa*|BKa*IbNa*Ub9a*ls<RuCk8cgcIb)&ffFnG9k?UJx|ao=uy[yOq|)Efsa*eHbYjzdJ:jcAa+!yb3Ia*eHbYjzce
   :jf3a+!y?j:jm~>8b9:jh]~eke:jmQes;I:jl1yL[9fmjzdJ:jlDa9+5CjzcefFlE3a9)ofFlE8<bfFeK4eP;ofFrb0kKuQb
   vuwtMrg+mf0eP*L:^gdbLgE|Aa^bI!Jg1:sd|N+yf9a4pr(Ld4d>fFlZ7a!as<0=uy[+mlq)Efs+mfVspkN+mf=e~?j+mk|>
   8b9fFu;6~ekefFu;9es;I+mlEyL[9fFk*7kCkN+mofqP)o&Abk~Blaa*kN^Ia,nH&AeaePRzxbGfFof1k.e1;ofFof8kKa*c
   5b)abn>s&lL!5?<fRa2$ZxgdP?ql7l3jWg=?qov&AjR*Onp+Ey[&AlrePq5oar+&Ak|spl2kNfFiy&t|&b3bfcIfFiy9t!g[
   A&AmRkAA&Au8bEm!bD&ArbbElxbD&Am4^q<=e4AfFnl0cYu[zxk:*q*qLfP;IuYiWmGn2r+uYmhkC?6uYnZoF~VuYn:<buYp
   *a*nH^IuYtkkK)Za2lCa8lVa*c2Yuwr(a]a+c3aba+bexW.,f$aia+Ab4fMa+tMrga+NguuYf32*Pd(luc,bYl9n5)cv+CwB
   )ig[t:)Yf9)EfsuYea6spl2kNuYf00a2|&?j!wky>8zxk:*q*qLfP;I!wfLyL[9!wn!kC?6!wjRoF~V!wixdR&Ya,kN!wu7e
   Pj6&4zCRb9!wyp%gcIx|byf6d(!wnGa2;o!wu8kK!wof:^doh;lLs0*MOiYcecBhhWaZb4:dc]a=dPa=e=a=g=a;dGf4dJd3
   a=e=a=g=epc*UbgU<WzHc)Ac,$hn5)ca3a2)ia^b%cBh;)Efs!vkyspl2kN!vqCa2|&?j!vn!>8zxk:a^ke!vo:es;I!vu7y
   L[9!vv?kC?6!vu8oF~V!vu:dR&Ya,kN!vq|ePd7cIx|hhd]bf%5!viya2;oaWqFc$kKuYfV3k8l]&~>%|D^w[j<0uYfL8gxx
   yaYcXc,bYt:)Yv+CwBy[ePvQlTiwa^wDfsuYdI2spl2kNuYdI6a2|&t>fdf,<=e4q?zxk:*q*qLfP,DecbDk8oV_twz6c[ji
   b3Vw,zUuYjQ8kC?6^+c$oF~VePd|alcvepbyx|^+h[ePbCcid(bpsrd]La*nH^IlL!5dP-i8-b>-dxao,]f4aoEjW>kaoEov
   a2dGb:nTEa]zkjWg^b:nTEova2dG=aa]ePn1lTkS;o^+m~kK)Za2lCa8lVlL!5?<fRa2$ZxgdP?ql7l3jWg=?qovso+>i^eP
   bCcid(cDNcr;iev^+ixczaaeMA=u)Ye1%Bs%cg^+ynePeyzHe^eyzHe^EglNe^rgt2It2[kt2Ut2r+t2bhUt2bhr+t2ciUt2
   cir+t2Et2rgglNe^It2Ot2g$glNe^Uzv^+tCa2lexJhKcIzv;jlexJhKd=zv*!fyadbDpAcDn$^Wcge1*GcgcI_d=t2les*l
   +bY[1;jlexJhKJ[1;jbDaYUpAcDn$^Wcgfg*GfCOd=cDAgk^Wcge1*GcgcIrw)Klxles*l+c*bDzv;jlexJhK!Jzv;jg9%fb
   GpAcDeyzHf2adcgcIitc2t2les*l+gezv;jlexJhKc2zv*!dsadbDpAcD[1(Qf3c^adcgcI_c2t2les*l+by[1;jles*l+bo
   [1;jbIt2cXi[bo)Klxcgt2b9zv(Qu3d8adbDJhKb(zv(QqEes)KlxbDaYUpAaf[1a3g9%fbGpAa3DadbDJ*ot2g9%fbGJhKb
   (t2F[1(Qm~k8aY-wvbLA(Qf=mGEb(gicil^KcfaobtarAgiqga9dhr=cfao_c5giqga9dhr=cfaobyn$giqg(Qn!a9dhA(Qq
   za8d=cfbDgicil^!Qj5l$a9dhr=atj5(?k+!Qj5VhKbGAbtEb(giqgaFdhxVd=glgdaibDa9(Qk|a*Lak*M&c(Qv?ncdhhKd
   =cfbDgiqg<|glgdaibDtue]bLcBmbcg(Qu:a!a]kNpGy!e]ctcI$Bc9e]bGbUd:Ubra8d:c|bUd:n~b9d:c(bEmUzfbfbCct
   bCadqQb.qQc(&&afbSbCct(faxYctYs.anpGc)d5OzdkmtTcta]adcrc(r(.DcvUqT!TOcDac%L(?Kd1ctbDbSa]cta]hga8
   qTHr;a]jd.pcDbfbAbokNbIbqc=byLe4c9+Ahga2c<cme4c9+Awlc<cm^=c9afcXPbGbSe(bp^5ctcgKpye2UzCbfb8e*b.h
   7bfnus&ac&&*uaqh$.aUa^c9_~S(HpGcja^ctc(*acDcNHgddKkNgldz%rabhKa^$5ojad-gkbrc^x|btaqcXa8jXbUw^Uiz
   bjntcvaaa]UaWf&nkajbB]+Yf!bou<Tajg?w&afabhKb+jDOb^Ierg*Uy$bIg*aYp;wvd:c(cgbS$5YcXcNuTaikNd:bf$5d
   JKa8.DeGqQbruniTada]gkbG<IlGbGcopzbI[nadddjdo<kKajg?w&_c(d:add:bfd:atgM!xu2a!b(Oww(pc9^A!xkzwhM!
   xqCdK,9bzcW+2.vmbpGf2ctbDM!xkMdKmbrwfdslPmbcDfg[I;k+nlxand1bSiu^AwhMdKmbitfdbSbAdK.vc9^Aa2c<geMa
   3cvbSc<^AdKmbbobzMbSslb8e*b.!xlr<tgD!xjpfDvoadl!!VaffIb|f2O^Aa3(!Pmb_d]a^bSc9geMa*e;c+eQSncaq$5e
   ]adb^aqcXa8jXbUffYffbjr+epbymb_twg+er<2a[c!nKf:<ScrfC!xlEncb+EbUOb^Yb^IuYeK2ooctb(uYeK4?s$5dJKa8
   .DaofmAbDc|aj;Eb(j(i~aed=coA!xhakKaWh]cRa*c9cDbSe(ePd:g9dBb~NfCaWh]qy]Hc7uG;Satz4dBahkh;mc*RbLCb
   rbQxV-bge2NcXboCc)eraLGah;Za3fHkh;mbpDbLz6jJcUY;mafv!z6abtGY;m+AbBpLDa4Y;m;Zc^BRcjpLDe|l!bBkh;ma
   4BcI-([Ga2m&Sr.;v;Z]dc+nKah;ZbobbabgEc)a3roc5a3<Hg)a4roc5a3RaapGacm>hgSa3RGcgdBeJcEabtG-kcgR>Jb4
   Mb*fB|*cxah;Za*b8mU+^c,pGc)>J*FLbGGa+jbb,!6c,afjEdBClf-bC(U-d:YgRby.QDjd$EtPS~<lRituCdBCaegFroc5
   gFSbgcrdNdBCaegFroc5hWuCe2lRcDdNjvn0fR_nEr:<Pz4boShwb4RtcSbEd=b4BZhgcDmZeNLg[abtG-kcgR>Jb4B]>bpa
   e|*bEd=b4BZhgafGas>JSorb*MGbSj6hK-cvRbfluG>Jb4GYa[gFcgxgc(_d:c(dBYa[gFcgSk8Yab$Edja3<;+fpfAaWjQu
   2bEpesAngM&.|m&4&4bzW~xa^-u[k:,Dfyb|a^|$.Rjle2fyKzCb9aWjQo:u*;3kCizb~g$~<JdjafUcDd=,~fTNcXboCc)n
   cj[dk[kyLmZeNb(cDAhKDf2d7e*Dadz4_eMe5e4aYUbDepe*wR>JSa3,yh7Cb*,0|*a3MbCvsh$|*e2GYb.*Fdva2kJMbCU|
   *a+z)rTc,e*Cb*,0a9MbCUa:tvnwa~k++XqXfIcWzL*|pAaWjQq|crfg[I;k+nlb>|u>&y;;cvhC~jgwj6wqn4kcaqkcfIsi
   ZfIxm-aq~Pn4b|^MfIr=b|aq|$.Rjlagdcw(b9hOq.ooUe2Ue]bGgm]>bpae|*ajadfUqYc,xpgqbra9rlfmc(vT-|3Bbl_-
   bCaY$JitbNLbobfRane2JzNc)bIdBDadfTane2Jb*RGcgdBeJa2cvbBbyf,asbo~%mZb4-d:Ycia?GSbga?B]>hOtk~<lRcD
   dNe2lRituCgFSbgz4boScI-([GdBIbpGctRGgla5MrocXkhaebEmZb4<Hg)a2fHboRc2e2rocUY;mbpDbLerz6jJb.boRc2e
   2rocUY;mafv!a!%yfX+%pvaoc,a%)OfXlQ%yfX+%pvaoc,azc4a()OfXlQaoc7uGdXamc)b.bpbCad>JSa4z++PhOf06gxgl
   <;wwqve1<=peyc?A?Gd]e^a3b)wlbqqttFr(e~b3Ug+c*a|btAa9a8m3kfb+Am+k3(&b~b*fMk8iwa^s?esc5eR)|a^dnbrz
   J+=:Gw(b9a>c|a>bGePf?brafAkKepe*ai<Gq$g8a3$J<Spqaoe8p=jUd2b3c<alMacbvarcxacaiIbWn>afbzb|a^iZ)[,G
   sG;3ePr(zfwpfIrehCc7zJ|:+=d,cDxVbIaEb(n>afd=We]abacpLg+afd=We]ab(Wb=?si^afd=We]abacwba]!OKb*Pc9n
   >agdjj%byWctuC(WqTj;c|g+agdjj%byWctuC(Wb=aKuHepagdjj%byWctuCacx!biz;dPc6z;dPe&z;dPe.z;dPegePEdnj
   %byWctuCaccDd7aEYc|aEiPc|g+dBEi[e]ab(WbUcIcgHceeLe)rgn>kDade]aq+XzLaqZ;Ku>lbx*F>wpJbGzJkDad+=d,s
   &g+kDadbtdcEaE:ke6khepkDadx!c6n^e&n^egn^fvfmm7Ccix!c6)Te&a>y=bGhsx!ePh$$5by!zhgcmA~<U$5by!zhgx!e
   ga*b)lfgg&cepe]~gx!bin^e&mGaia[bta>kN$JkDlfh8E,B?BzMhLmCaddLadfwadhWn~acr3aam^acd%r;aaevr;y.d<ad
   cr(Ua[fxabm^g?*db+*Gd%(UbLa8cv(Ud:abfw,dm<abkWoHbCaafmr;JcifmciqQaboDr;JHr;bGb+n&fpb+!^g?a8c9EhO
   nF5kBN~kbkb^ac~kcRePade|adcxadd8a[<iesaaeCacd1wlaadZadg2ScYadbE=6a[dKabeCg?*[m(add1=6bLa2cv=6d:a
   bcx,dkVab+ubCaacEadkAcicEciorabopadkA,dqOaxn%fpaxuKg?*aaxbRk.Nd0c+bRd1hSGad=P~[|uqw$zvIzMhLcDab?
   BzMhLoMace+=Va3=Kd,m])!pGO=J:Yi*sqkapTa2p4hj?]q2:Nsqsea2kthjktn8+Ksq*3?Ya2u~tTzap+,U$mkasqxe$mpc
   pT;G)g?Hxesqfcnyt9znfcq2q:znr)p^kap^xep^p4Pl0eDp^mEkap^mEp4Pl0eDq:p^~np^eDw*:Nw*p^zS:NdVbsa]p^p+
   znseznhjsevYkavYxevYp4mEfcvYr)a2eD;GeD>mkavYhjktmEn8a2eDw*vYzSvYu~a2eD>=mEp+vYw>bC$*s|ktbC$*s|~n
   =~jdbCiXeD=~jdbCiX~ndKadkt&Ukaa2&Up4&Ur)a2n8;G&Uktn8)Rkthjn8a2n8w*a2&UzSa2n8>=&Up+,K+K-n8or$*s|*
   3or$*s|hj*3=~jdbCiX*3=~jdbCiXhj*3?Y-u~?Y-w>bC$*s|zS=~jdbCiXzSa2p+q:znp+sqw>|It9,Qpc$m~4w*$mw>)gf
   cf^%9a+Jhg=Ja2e^axe1cgax;|ax:4pwbS,wc|axOaxslbfc0bSuKsj%Cb=k.bqIb3-Ob3-bfcg-bScg-slEqLbSEqLbfEqL
   b=xvqLbSc3qLbfqL;|qLaxqLpwqLbSqLbf$Te1$Tcgax$T:4$TbS$Tbq<Ja^<JAax<JEqLb=fk-pw<Jbf$ba^$b;|$bax$b:
   4$bpw$bbf$bbq^jbf^jb=k.uAbfuAa^uAe1uAbSuAbfuAb=oC-(Va^(Va^(V[O;|(V[Obf(V[Obqhj(Ve^-b=pz-bfc3qLe1
   qLe1qLcgEa*Jjd=J:Yi*sqka,Q~4pTw*$mw>?]ny?Hr)a2fcq:nyktfc>=j4p+nyt9q2:Np^ktkthjktn8+K?Ya2u~tTzap+
   ,U,Qfc,QmEka$mka$mpc$m~4)R~4>=)gkaa2)gfcnyka;qj4xenyp4j4)gw>hjfcnyr)-?Hr);qfc>mktfc>mw>j4Kv=seny
   hjktfc)Rktj4u~ny|It9&Xka&Xfcq2q:&XeD&X~nq2)ReD&XzS&Xt9znr)p^fcp^p+p^t9znsevYkavYp4mEfca2eDq:dKad
   kt&Ukaa2&Uhjkasqn8a2&Uu~,K,K;qc3y,)Rktp+q:znp+,U-xe,U-fc,U-r),Uq:xv=Bt9,Qxe$qq:,QzS,Qu~,Qw>hjxem
   $*mbdbu;SbzwWx[bGa^^zn%(!c9a^uD[q*?b(a^aXaxaX(Hh7,wHbztIbftIbqHbG^4bOy)n%tIbStI,w)V+9bqbIa^bVugu
   g%kWf2Zf2ZwzZ%rgBf2Zl2SZm(ZvoZ,wzxbfbN*[a^alaxalpyfTWf2f2bfb%s:a^b!m(m(voWiJiJ=jbq.biJl2b).WbSb)
   Wvca^bckVbq!Uvcl2Q.TbSQOvc>.nG2kVsjQc|vcc0.T|G6k*kVbzQwWQx[QbGvcbO.Tn%Qc9hO6iykVH>.6xUkVHsjQHc|v
   cHc0.TH|G7cRe|gn|.bqi[a^c7$,axbAe|WfPfPbfVbql$a^bWaxe8VbSVWd5d5bfaoa2bDa^bxwuwubSb:g[g[bfCbqpqg[
   l2CpN+2W$$$$bfXbqXA$$l2XaxXbSXO$$>.7jRopsjXc|$$|FX|G7h^^qUbExaAf,EjIaxdzbEW)MNhpbEmZbEcgf,c3jIYj
   IfC++WfJr?g%aqbjbUAaqizb+b~WfyfyjLbqcIa^dAsusubSrkfy>.eK6dZsjKc|fyc0su|G7hadZXfyXjLX$BXAfyXl2KXs
   uXOhO8bXdZX>.8c$dZXsjKXc|fyXc0suX|G8eafDm%bfsjc|a^|FuKWbSnua^cvx~cWEg%aqbjbUAaqiz^]hO8kMeCjH:$bq
   gBjHl2Z%^.wWjHbziRbfiRbq*LjH^ziRaxiRbSiRWu[%Cxlcga^c3axpwslfCdsdsbfbavXa^bewsaxand8WmI|0bad8c2ds
   beaxcBwsan.3WfOfObfJbqpAa^e7axJaxJbSJWfJfJvsbqd=fJl2GwtbSmUfJ>.k*2cxsjGc|fJc0wt|Gk*8cxl4Gbfh4=nd
   =fJGl2h4axh4bSh4c|iTiTbfa]bqqTa^f7.V.VbSa]Wj!j!bfbCbqiha^h:^Q^QbSbCWe4bzcvbfcv:*bGe4^zcvaxcvbScv
   W&.&.+:b%d1ptd5b!axj6axj6bSj6Wd5Zd5Z+:ZbqTgBd5Zl2TZwuZ%lZOnSnSbfbRddAa^hn$.$.bSFWe4e4:!bqibe4l2P
   zN.vWzCe1Me1FcghO9ix^ecUG+Cf(deeH^Ia5a3G+Cf(a+sxxut^pCccE!*y2=r*wa+Pali!*Y~[|uqwa*q6i.d;)Z!7o5|x
   dOf^lta2rKl(!]h>vR?ge+i5d1(WlVhO9had.r.nIq$&vc7aibpWmcsjMc0uguKb!&vc7aiboWgnsjBc0$,uKb!&vc7aicmW
   nSsjFc0$.uKb!&vc7aibyWe4sjPc0zNc0vWa[aYdXkhd+cfhWaZcfa8bNKbNKa9o^<uFbrevacbrqQIje%PeWThWaZcf-HeW
   TevbBT^*n:wcaZcNrgb0a^axbqbSbfVcxfyfJwt=n|%vsVa2bzn%x[(!wW&~~eaXh7bqb8h7bfLVcYmcug%qbSg9bE^4lxd7
   HbEjIxaOknbEVa2bca^bcaxbcbqbcbSbcbfbcVc^f2c^axb%c^vowzVd8$KwuaxbauS%Ld8|0Vd8Ld5Ld5aXd1*?Tb8d1[qw
   ]Vd1S&.wub%d1SbSj6bfj6VfDm%axsjWbSWbfWVa2e1pwxlsl%CYVcYVaWjph[i7Yb+(;Yb~(<YVd<V^*h[0d!l++7wm;vb4
   *<spn$bqbqkS|&(KpN$vdJb+bqe^a^)$,!,$,=(9,Wbq)8?~Ib3bq!dEagcxwEw0j~gMb+jEg5lpsnx3a:nra:c.a9rzsIa>
   !&zlSd<h0bTa8!&dukIb+mo.:x7<ia2lOa[a2^=axibp;P:*kSPbSc=O(KpN$vxob+x[Pe4Ae4)$P,!P,$P,=P;fP)8Pzj$V
   !dzNgWC$vojd1axbDp;aouSbqT%lg$(KpN$v(?b+bad1a^bDa^^igWb:%7b:I%7e=gWe=OgWb:AgWb:n$,WbqcJecwuaod1T
   bSecfyaxcIp;KbqgP$B(pg$(Ksua^cIfy)$K,!K,$K,=K;fK)8K?~$BdZWc^gOlYb(bWkgdAe<gPe<rke<cIHcEpNn$:):)k
   SC+2g$(KpNg[Ag[)$C,!C,$C,=C;fC)8C?~:)c^+jwacYaxbIp;M%qkSMbSe(O(KaxhxbImc)$M,!M,$M,=M;fM)8M?~%qgW
   MHb3a]audnCadbp.6+jbEaxd7kNbExaIxa!Tg$(KjI*pf,)$N)8N?~xacE$vzfbEg1aXg2p;*?c+bqb8(HO(KaxuDb(=2)$L
   ,!L,$L,=L;fL)8LzjgWL$Vi6c^m(n$bqb%.0%rvog$(Km(f2Af2)$S,!S,$S,=S;fS)8S?~%ra3hUaudnCadc^Wa2dD)%afc
   Yg$b!eIwUKbEdn()I^>Wd)-Wd)PsiSb:aql!sigLWiJ.Wbqb)kSb)bSb)z!b)iJAiJ)$b),!b),$b),=b);fb))8b)zjgWb)
   k.axcgp;xlYkSslfCO(Kaxe1cg^5)$Y,!Y,$Y,=Y;fY)8Y?~bqYa3p<nIeIEgWS+jkhbqala3ReIaxfSEam*[p;bN.1bqb,p
   ybSfSb*b8fT^6a^fSb*uDRzjgWR$Vi6dd$.n$bqbRf^bqFbSc<bSFnSAnSzjgWFa2f7<leI.Vr%NeIax*mr%NeI.VbSiubSa
   ]iTAiTzjgWa]d1a]wua]bqTa]%la]l,d1pwdObqdObSdOf,bLcklG_n&<(fpbUtJc9b~fIbGaq,c!RckrrHKkVn$bqQbqQkS
   QbSQz!QvcAvcd1Ln%w]x[w](!w]bzfSb*ala8bNa8b,a8h%cWAkNbEr!bEr!xamUt!g$t!r8Ar8bEcWc^+jkDb+b)bUb)b~b
   )m%g$DSeIb*a].gbU.DpJa]h7x[LfpbqL(!Lc9bSLbzLbG=2g1a]eIb*a].gbU*mbU.Diub~pJqTaqa]b3Ih6c+Kboa2dDc<
   <?b+.xaq!^xk<MWr>oybU[vlbKy1zWb~Kf2+j_n&<(tJbzC$vdB[iiPb~iP.e^|iPbUGfIRbjb,!o!ob+bNjGaqWbj<M!^c0
   b+xksiHWbjH<MH!^Hc0b+HxkHsia]bj.Da]b+f7.gbUpJecbjecb~ec=Nbx=Naod%i:PbjPb~[~g4b+PbUsdPfw+;b~G.eiz
   GbUGaqd:bjd:b~d:y1^|d:bUd:r=Kbj[nb~[ny1dAy1KzW;2Kcrqab~Nb+gQoybUNkjvtq,b+bVsybUgw(<Yb~Yb+c3b+(;f
   gog.6+jcE$vrwb~qIe7b+l].6+jcE$vrwwpJbjywb~JqIJe7b+ywbUywaqLbjb8!n!nb+<9l^DLbjDb8hWaXhWaXb+D<9Dl^
   L[iLtJLn&L^|L<(LfIw][iw]tJw]n&w]^|w]<(w]fIw]bjTb8d%aXd%aXb+w]bUTl^ZbjZb~Z.fizZbUxmZj:hWZbjkcb~kc
   b+kcizkcbUkc.Q|3b~b!tVb+.aaqb)bjb)b~b)b+b)izb)bUn4b)d%Sbjj6b~,rd%b!=Nb%d%sfbCbjbCb~bCb+h:b+.kp!e
   cSbjecSb~ecb!d%,rb+ecb%d%j6j!Ic,ddoZkVkNbEd=xacWxacWIxacW!TcWg$bEcWf,cWAm%g$DSeIb*a]c0.gxka]hobU
   a]<Ma]nub~a]sia]c|aqe6_jWdD)%aga!dih;$h=MePc7ak.4c5|wabNs:cibEhAfkhUvXbhd1xzpNOd]=~bhcJg9aacx^Nt
   !Ec)aYr2b9jr:lc5b3ciMa2a[N<jd0c)=Ug1x]D=UHd0fW=Ug1asfkciaXzHa2jraad0cX,d(fd]dKEaka*hn&GdXa,mHaWi
   xha*NbL|=hn!N:AOHcmb*Fes<j]3_bB_bfi1k.fDtTbBc5[PwabBb4a]j&d0jWadeBZ_s!b4Ob3C_e^|ya2fB!C)]-d9b4O[
   3-Ob|a3e~axa[*[Ianxni0alf5e2l)bLg[acl)bLe]cxa2j$cxEbAdBYFUdBcxabfDbLh5agrtNagqO[gZoja3bGg)La3fB!
   C)]-bGGa|[3-bGGa|bEnHbaZcDYDcDAgRcD[3-d7gRa2ur-Na2c5[PvSb4c5b4bqax<4lfJcx*lfB!C)]-abbtaxo^,T-ab_
   a^Ic|ZdJOg1d?iubyEhzbya2aYGd+dJf6Hbn,phob8af.6aee;!g!C)]lYf6[3lYf6cEeCuSc|Z(=Rc*i1c*[3-dORd8e|aZ
   KadadgqasCboJcbadbo[3!CJcbwlurgia2fogid0Hc|ZdJH_axo<d7Zbpadbpa3fB!C)]-bIDR[3-bIDRg2UcIZ]Blu_oORe
   *a2ur-La2b.c|Za2s.c2d=Z_c2g)ite~a]aYaddJa]e;_bSEaboCascEc0hza2c;C=~aYCr2wlfB!C)]-i1gE^N,T-i1a2bu
   e;b>bu-i1kVopd.hPbymPa+M)ba+p>a*abb(tP>VTh6bIDbBa+%zG=,+fgEe~bSFjVKb4CdndAb$d9a>c5osjTcc.;|y^*k*
   8a!tcaYdi=OjL>]$K&?>omK?Ak]bGncbUUk8>te4cXgR:7aWlDqDePn1lTb9m]adbLg$=OjL>]$K&?>omK?Ak]bGncbUUepb
   ycXgR:7a!cvIrEPd;iEbymPweaWlDh^f[UHf5=OjL>]$K&?>omK?Ak]bGncbUUaWlDm4*Onnadc|=OjL>]$K&?>ohxcgaWlD
   xUh7m%f2AdCj.ncbUUdCj|a!d:w[wwjmK(pc9t!+2j!g[bSbC!TslDl,a^and1iubEN%liTd5bSiubEbSBe4bzPbScv%kbSs
   lb,(HesbSb)n.vo=3uD!Ua*ghPg,aw_eH%Dysm<AaqQbUQIbUbc]nK]nbjbcUVjGffgAffeqa8eqffQb+Qq~Qg$c*lcb*dPa
   EigQnHa*eHl&<&awbtQb^A.6b[a8jXbUffYffbjkfUaq<Afg<,b+jDq~g$o,yLIcIcooqu<g9Ka2hpU|Maudwbfg9U^Wvuad
   d1bNc5aue|e5y|py&v+Tq[d:Ibrl)cI&vb3HSDf2cXYcNafzHe1h6bNcXcEOj$e|hU[QS|;d:wlebIfCd9adcEcXN,s:.<2r
   +g1aXKhFbSc7YYaYa2cvd7ls$AaddZOatUgMajbB]+Yf!_bNe;epbtVgkb9bG*Ge1bra]ccaddC1h[kKdCh[8$Jam,gbrkma
   fa[a>g9Ol%nqdkc7dk;,oteJoteJ-g9Ol%z$gi(&;Wc7dk;W;,dCky4gxjdOc+adbo|2a*e;c+eQSy2!**wa*t*c4a*iBana
   f~D*<a*b%c7;SbAdWx~dXaZl6adbCUuuhxFoZi~bhUlulLalb*j?bvq$cF_!8g=a*eHqwlLalb*j?bvq$cF]CkKdC1lEePa^
   axbqbSbfOax]5EjIa^c(e|e4vcfJa^hxLf2iJ$KlWu[h%WnSfyjmj6jH*ojHk:bziRbqbCbqiBan_qkf:kC.xbj<Aw^c(dLa
   qsdQqXaqgwi:u>p!Jaqj6aqfgsik+d=aqbGaql]r><+kca^b%Bb*b+jXffw^bjc(evqXaqfIsdn4i:u>Jaq*7d=aqbGaqj6a
   qxmb9*|Zbzo<bCnsbUk+ly*7Zbzihazx6dC2mRa2,9mb_iwhKdPa?%Bs%a>qdabe)blc)[Qa?tvgmaYUc2a?yCdcdkcIa>cW
   dcCdcTbDh*a]dc!Jh)>3$4c2otdcPy5b|dcZy5Zdcu<+Tan_,9mbgeaEZbzo<bCns,9,9^rcWxVpqaEJbGz;(hcB^r(hD^rb
   |AuXcgaE*LaEZa^,9mbsn_!Ye1o<bCns,9mbbobz,9mb_c2*9GmcadbCns,9mbe*bGdCfL0d!l++7wm;vb4<>b3Yb3eya2c|
   m:c=YdKeydKnum:bDYl)YdZc|m:bIvROvReyg2Y&&Yc^eygE<>gEeygEnum:fCm:cgm:b9vRhoa3[|Bc|vRhor%[|Bc|vRnu
   a3[|Bc|vR(9a3[|B$IfT|FRsjRhobqRWbSRnubSRWs!l]B$Ibyd%evfmw+d)kWd0dnj%aga3c0Sj%w0d*x3a8u&bTfTeIb*R
   uKfSb*b8b~b(iTuKa]Wl,uKTiu%lqTd5LHuKw]c9vo+jkD!^b)(0c9+2$vdBWbjDacb*Gizd=qXWf2+jrwntC$vrw,wc7AbJ
   itacb*LiDcE$vitawaYaf+ZbXa!vvj5_eHd4$vdp+fpffObzgld1iTdsdsyc?A,DGgld1b9+ZfLncaqjKizq~g$b^bj^]):r
   Tb0fglyc|+Zl1i7k+cWaqiwaqi:;;gwlyb(epbpgdcvRj$dZc%cvRj$s:-IdCjR4(HOdCjR8%Iy]a+&VjvpKbDIamb0k+X=A
   aqj6^Mfg>|l^sdx*gw*7<LfI])d:wqn4lbaqbUiz[bbj(0b~w^b+nHb+kN$Mh[n^c6n^e&n^e.n^egn^fv|p8tSWgetKd(Eb
   0:p!Ua?bma>:pcI.>xVcWdc$?cI.>xVcWdcf|c*ptaEptaEw(bmc*ptaEptaEw(f|geaEqTaE>3bmgeaEqTaE>3f|zdj;^rb
   Ia>bmzdj;^rbIa>f|cmxVl$aE%dbmcmxVl$aE%df|wbaEc2^$dcbmwbaEc2^$dcf|e]l$.>Vdcbme]l$.>Vdcf|af(7a?bmd
   Cix6a8f:_eH$)hcaZaEn$aEI!O!Yr+=$aEnmp~p~xVuHaEeyaEAeyaEUYp~Yp~eyaEuH!aIfftXe6okaEcW*i=&^%aED^$d%
   dGi^biiCcbc6s;eaa8gg~sr:a]cX(AdPs;o9d)(rb(eLb(*6a!d:w[f!byhU[QSbrcYiQYe]Ocfa3nqr%|K;,a3z$a3;Wg9<
   >a3z$giIr%;W|K;W;,.7.7-g9<>.7giIr%wT-|KwT-;,.7gieJd1i;cgSbrcYiQkgb,Ca3nqr%|K;,a3z$a3;Wg9<>a3z$gi
   Ir%;W|K;W;,.7.7-g9<>.7giIr%wT-|KwT-;,.7gieJf[tPd;b!ww>]r8Ke4>o)VP$Kf,f,Rg[fO)MroCu[t8k]*oncjK^]b
   ^EdCnG6gZ^Uc|a*q8q$g8*OtKa]cXb0:pcIh(bGh(Xaq$?cIh(Xdc+WcWaqf|bYdcp!bmbYdcSdcp!Nfgb9i:f|xnpJu>bmx
   npJjVaqf|gea>pJbmgea>pJN>wf|bydcPy5*7bmbydcFdcx*gw$?cgnQjGaqh$b+l^d(b+sif|pLa>b|dcSdcfId]aqaq$?f
   Im3kfiz(0b(b+f?brafg[v6+=d,xnaE%db(c*c(]Br%Sb[er<2c(cEv6kZcDd=a>bmzdaAf|xna]hKasa>bIgmdcpt>6h^c^
   b[afgkrpf:bta>$5afbra>n$a?Ta|a>dk(&UeLr+eLe)(8iaOAj^(Nl%eLAeLg$a>kNa?a]cX(NAv+Sb[er<2c(n^bin^c6a
   8d:Uacx!e&)Te.)Teg*dwbcXa8$5afcXa8d:Uac-d(b*uCaddCeK3cEl9n5>i*Iq4lTbTa2cshKgg~sd;:LbXtTcX*M~sd;:
   Lkzc^b[agIc(a8hoc(c|gkd)%0r;dAy~a8c9ffanKbIbUj[v2jVaq$5khcXcNvZr;cI^;kfSbrcIadd)brcI^;kfHc(fmAc(
   :LfL)9cHDbY;(a*mM-ica*aa[dYa*lkcSa*zrbTa*X-Xj^a+W.Heq)Ba+fodXa.cHa+lwiIvL|igIa.bbfZG~[meb!b4fMa,
   cH~[meb!b4e9~Bvj%Jd*)?j^aAz,r1?ifMfY<c?iyTc.r1?ie9fY<c?ie9n+d.dFnWipb4fMa+NguuwkJi+abbCa+xFa.cHa
   >~.tsj~gMb*uy;b)vdB=(z;|oh[f[aYd;b!+Ecjnst$c%fmb>Rg[Ej*Kc^bBc(e|c5u<ePgkabaq);a2lGabaq);fkuCaq);
   *[!ePdc);g2amcWdc);d0uCe^lGaba^cNabaq);dZ=?;afJqXasa^m.aq+!fOwpaZ)MbD]BaoKd<bBc2er;aa^c2bpbBc2_l
   eaujVdcbI;a*p_eJ&vd1aqunds=?hwbEe4r=auaYe|r=:1c(cYu[?Af2AafdN.QauaqqO~<i<Kadg+c*arhga8cje)SabbUe
   BKe)cigM*d!eibaE);wgamcWxV);d%aYb.a>.Ndc);a?alsdPdf|T);a*AbeGbtbeGePrGafdngka3Kc9Ta3TZbha3vFa3bW
   a3ZaYa3dnYbBa^n1lTJNcg|ohakKgZ%XgZ[Qc2xuaahwajablGbycXhgcIg1^WbqhbaZacgZcXacj$.+zPf!itjdhWj$hWhg
   hWc(hrbBc(hWb.%Qj$hWvm%Qb.hWc(dBarb+Ct:bxvIjTacbePh(y=cjh(c%nLa>e7Gdiada?Ky=cjapaAKc%nLgmacbegFj
   da8%ydT_w4hwGaE=vk1o[TgdaEkma8)OdT_fobyc(j;hgk1o[Pwvj;d(Ka>fobyb.gZ%Xe*e5c(a+ibbIc2ewp[czdW(Yc,b
   yadc3j*KdKc(vjabdKc(Wc5c)ePl*Ub3axbSaxb=dZvcfJa^m.fOjHf,m!ds&?nSfP>omK?Ak]X*ozJbycXb.KaYfxadcgKl
   yPadYlGUg+byc(HcjbjPadYgdbjPl+Eb(j$fx.GfB&CbVPcffxadb=aXhgepzdbInmHesIozzJbydnc(adera>c|+fbzScgk
   Ka*yFbGePalbfaX|.bze6e]d<f[AkmoM*%qO*%a3Mq[+Pe|Aa3uCbSib*%%ga3Mq[cis.c|*%a3PgkPgkcxA*%kAds^6*%uT
   *%c^gOaZNgea3k>aZNs:*%a3Mq[+Ppz*%t!a^b(*%bEe1Cf,DmcBl*Uepc*atnqg+dJa9PgkPgka8iz*=uCb~,luCb~e)f4a
   fg*&pafAzJzf%PgZc(eYTgZadjda[adewkz4$JboaahwcDhKbVbxKfxaaabBasdna8JgRcjfxc(eY(6aXPihwwfyLmNuDnDf
   ,YlX&?e4Le4bzFnSLgngnuD)VL&.|m&4u[k:=3HLfPf2iJm%e^):rTb0fgb9mGaq.x(0bjkfEzJe]d<fscrfxjGd%crsk-an
   evc(~<adbE+yewo97tuge-vk<lc3b$a]fCatcEaZ-c|a3<H[za8kKewkM5ePecl,dsc2a!f6pGIgP*Mthn0tXl^brb^Ga8c(
   a8aYwg*ygkb^AJb^cXb^%0fsbUc5a8Ie<aaffbhfsbj,sa8gRa8.q*cffaXa8dfa8arDa8tZaZR<tqPecqPBqPVqPHcYUc*T
   gR=vcxn$Hb(Ac*TgRc2dNa3g9-d=u<b(a^alb(e4bGabcIe^=UdKmP$Apqc)a9cHd!)tm0?Wg5fB-aXh4bQDoycS_b~W~Edj
   d%a|vTuW-aXh4ard%a|oj=Va>Ybra8bLnINDbQgdewfV2?BzMhLbp.mh$c+mCadgmadgFadjwa[a>(XVaa.<ach*y$aah(y$
   y.iCadh)=7a[a>hb.<g?a>b9eL*Gh*=7bL]x=7d:abgF,doGabr4aaa>bCaak1y$Jcik1cia>bC=7Xy$JHy$bGeLbOa>fpeL
   c0a>g?a>c9eLbRa>rtosc+bRh*hSGy$vCewf=7.;(XH=Va?=Kd,czdW(YbymPboaahwafbBfgPc(fBfxexcXzLgklyaXUafb
   rc(Aa9cIa9c2a9i[ewgb6a!vQbu%wuCb)adiJabe4,nyxyLIHb)pva^cgJbBvQbubpf5laafe%%Za+]1cgJbBvQbubth4b9]
   7bQghPg,awa:a:cIa]gkg[jzj^pzJbBvQlTcIqTcI_ghPg,awafe%%ZafbCb,ar*lcHafe%%Za3tsl)qTcI]?gRbrtOs?a3x
   6a4gfRaevQlTcIb)nKbN_ghPg,awafe%%Za4hUabVckarbu][b[okc5eRaqgR%sa4mHesc5s%]?gR%sa4mHesc5s%_gR%s=G
   a:adgRbrtOiwhKe5eRatUd:hCu<bhGatU+Wl$bIGatgdy5gSx8uSRcgK.2jujl_qk)Ya4a4Ra]c(a2iwhKblbG<ObpgdbzbH
   bG%Bs%a3lgd2?sCjzf9k8l]&~>%|D^w[jIe1AaoKoz?sicf9a4cHk8i+iwhKe5eRatgdbGew4kMpx||bta>nm..b0z,wAfzf
   $borUosa]os..b0pufoa>IwA_qJk2m?iCa>j[N(Na?fo..imeWc|nva?fo(N&WpuOEwAceUi7nrsncea:lpwAbya>j[Ra?z,
   h*a>U..imeWc|nva?jab%Zarh*hSMwA_qsZosZg1w$bQLx~cWEaYm>bhe5=P(F||dB)4a>>zotdktNa>eQd!)t|||q$zm6_a
   qjDBa9>QhWtUa9mHfw!>a9mHoFObjPjGu|Wk0bta9z,a8(TpujDBx;SbCsifodJa:z,fwqizWd<a8j$qPa9foa9nrsna:lpf
   xd%*ca9uhc|nvqiMr3b^oH=wv&dBcX>qv&+AbUbCIpxo%>jTm0dkRnzV(Fo%>jTm0:6gF)4iDc9]xdkbCI,AUmf.Zk&a;Da;
   Fa;Ma;Na;Pa;RaGy6e!c8a:Sapa;Ta;ZqiG$zCyblTac,A)vdBa8a]apcabNdA^3cEbKIm?a4tXnoa:Pa4g(Ua4tXnXdL*~%
   T~Wa;Da;Fa;Ga;Ka;La;Ma;Na;Pa;Ra;Sa;i]a;Va;Xa;Za9rdo]a;(TDl:demAa8psv4a<foa=mHa;S^la;Ia;focea;i]a
   ;Ua;EiRv1+c|C(TCa>gSbYs2tUl7j[w4b+Fa8y8J&Ww5Gqie<I&W!Paqm6vSaEgSkIb+J:].RmAfs=IaFP%TaY>be*d<l:qi
   Maz~Jcrwoe!aFo]>bcDdLabf$_b~+RSl:a8i]d%*~%T~W*cfza8nX>b_bjVl:qiVm^a>j]v4aEmSLtUZe<t.)9$9?8a3n;d.
   |nb*e9d.cC%;m)dXa*kG-n;a*t6-?DkG-t6a*n;-?Dt6-n;-t6a*n;-t6-n;;bRj^a*rO-?DkG-rO*WbYiOf9a++ba*Z.Kj^
   a+c5a*bBf9a+cCa+iHm0,^ecacbQfobt.;eLAiackk1bYwra>)vitosa]gFa3[%k0wwk2a3[%=&k0b0Na3[%=(k0b0R,~TbL
   c2hra?fB.<a>rWgma>:6hr^la>Fk2%aq+k&a>ohlwiIvL|igIota>i]a>m9lwiIvL|igIa>o=rdmMaAOaAsh^x~H|NcIjn|E
   f8a,bTxu~EkJB.tGb*~.s?fYa*beaXj(a*i+kJ>le9a+[8r1tlf9<ctldecPoledj^a$;&rdicg:ByUBp1w3Bazlag:C$R=x
   DyUDp1w3Dazlag:D;]DmFj^g:pskG=ypskG=xEmFj^w3psk&g:E$Rc8boalbWkbFyUGazkGe3HyUHp1g:jqmMe3H;]jq>le9
   w3wXk&g:wX[KsIj3k,Kape3Kp1w3Kazlaw3Lsvg:Lp1dekG&:LbZyyt|e9w3LmFg:M=He3MyUMp1g:NyUNp1w3Nazlaw3NmF
   g:oht0b>&]oht0h9mMkbohkG=yohkGc8sIj3k,Pape3PmJ[>Rg:Rp1g:Rp1dekG&:RbZ*Dt|e9~9mJ~9p1~9az:=b*h9zpeS
   ima.m6imyJeSima.m6imp1eSimapoATapg:Tp1w3]0law3TmFw3m9mMw3m9k&w3UmFg:m9t0b>&]m9kGdemMkbVazk&e3Vp1
   eSjy)?azt6+~)?=H+~)?.Y+~)?mJeSjy)?p1g:XyUX.Ye3YyUZmFe3Zp1w3ZazlaeSa;Hd%.Yj8^Rf9a;Yb^azd~~Ma8fBaf
   mJaKobgIaLf|qqg?Pafi7lRbDbZAp1g:Al:>ZAmF=xAmF=yA,8>D~8bZA,8?>A,8s?~8bZrd>lb>&]rd>lb>;Trd>lh9>D~8
   bZrd>lh9?>rd>lh9s?~8oAEapg:El:>Zpsk&e3EmF=xEmF=yE,8>D&:EbZE,8?>E,8s?&:EbZIl:>ZIp1[>Og:Ol:>ZOmF=x
   OmF=yO,8>D&:ObZO,8?>O,8s?&:ObZohp]=xohp]=yohp]de>D&:ObZohp]de?>ohp]des?&:OoAUapg:Ul:>Zm9p]=xm9p]
   =ym9p]de>D&:UbZm9p]de?>m9p]des?&:UbZYazt6e3Yp1g:Yl:>ZYazk&e3rn-e>b)_d]hdrn-e>b)okhdYazzRhB(Fm0rW
   ,VbZrW,Vi7q3!Ajxewiy0bZq3!Ajxewiy8i7!L,VbZ!L,Vi7no,VbZno,Vi7u+!Ajxz>jgbZu+!Ajxz>j|i7nX,Vz>pVbZnX
   azg&z>rDaKh9j?z>pXaQ<Cz>p*aQ+Yi7v8,VbZv8,Vi7rW;cq3;c!L;cno;cu+;cnX;cv8%bl~z>dM4a8rWazq9)y~z$ut+$
   uxHtWbZrWazkuqbSu0~z$ut+$uxHtWi7!Lazq9)y~z$ut+$uxHtWbZ!LazkuqbSu0~z$ut+$uxHtWi7v8azq9)y~z$ut+$ux
   HtWbZv8azkuqbSu0~z$ut+$uxHtWi7rW^T!a~~j?de)yaFaF<Cc8=)qCaE+YaKh9)ybZrW^T!a~~yRl~j;+$u0ooasa[c5gZ
   +$u0a*g3a*+Ya+%*c8i7!Lazj?de)yaFaF<Cc8=)dIaE+YaKh9)ybZq3;c!L%bl~j;+$u0a*q9e%<+Ox=+Yi7no^T!a~~%*d
   ej?aQ<C=)pmaE+YaF%*c8bZno^T!a~~yRl~=)ixa*g&dee%<+Ox=+Yi7nX^T!a~~%*dej?aQOx=tNykc2b%aqnXaz+YaF%*c
   8bZnX^T!a~~yRx=tNazg&a*%*dee%<+<Ca*j?=)eKi7v8azj?de)yaFaF<Cc8=)tCaE+YaKh9)ybZu+;cv8%bl~j;+$u0a*<
   Ca*g&=)haa!(WoQa$c%a!ac$hmTc%a$:sd?-c%a$c]-d?-c%a$dx-d?-c%a$F=;wdmPa$a]aaa$bGbha$<Pag:gbEa[-k(*l
   k(pI)O,(d~i^]R,(f8m]v;a$Na[-gcgkb.jF=;<Va$aca$c%a!)Aa!i+tnd;a+bmuOaf+&,Oa&tiS+&bmpka,f|-mHpka%e,
   cHa&tii+bmpka,f|-mHpka!c2h4aZ]Pf[)7a$:Wa!dGbTamc)aZa%e=a!du|qc+eQcZ*<f(nCa!laqwa$hb|uuO-,(d~:1ar
   %3]R,(f8ezbd(>alg8aYiYbIeclQ)O,(d~fNbNbe]R,(f8nOcSmk-gcgk$hcld?bpciaXuwhc_lVezbNbV]Pa$tsa$mHwea+
   tsd!abcfczhPfYx:s7,Oa.vwa$alFaZacj*]PdJ,Ba!m&b,Bc(a!fNkTclmmaocl.l(=clCabtGzDaZbvnCa!dnq%Mm]v;bo
   )7jFs0.MuOu,azbcciLa(gsi+wCa$&VdJ,Ba$E,B_&V]HfZhL+E)6j[PciCcOc,pHq1[Wa+s4bm(xrZa!mH[;jsd!b8.]bMa
   !e=(xrZb4aYb[bQ=YzO|dw[Cd,bp%Wc,czWhg<Va!kJmmaoclFeXbymPdX]Jd|]&a!?XaXbybNbVa!t*d|]&a%gpa%e=a!t*
   d|i^a!$9p>a!eG[Ya!:Et*c4a!j1er>Ycp$hclWasi0~|jF=[_au&8tQh6b%%2&0c!hbg]a*moz>nF4uO-,(d~eobx]R,(f8
   a$bRRbbcafZGwdbd(>alg8aYtQfpxWafcubVeGCafWnUb.a%ccao]7claafpxW_o7,*kDaub.a&ccao]7cld7bvg%f.kDaud
   ja%Natd$cz)^<P;bIaWu9eaa*c]a*gpa*dxc!d3a*f>i~d;a*xFl6%Wa*txr1$t]];bN&+w5<Pa*dPa*e=a*g=a*c]a*gpa*
   dxc!d3a*f>i~d;a*xFl6%Wa*txr1$t]]aWu9f&pxo%>jTm0dceLiaXhr^l<xh(rVotrPz>f=2a!^kd4bB]+Yc,uPjsuPh$o?
   Ib,a$F,nbCcmjVCa$c+b9a$npLa$d7Ib9a$g4b!bDa$tMEmTWa[a$gQWr<Qe;a$Djda$^ka$gPPa$pEGbNKa$DvlbIa$GaZo
   <byacrowddjOa$luabadIa$nHbbvLa$HgAVNe0uParIa$c+ValhFbBdzc5a$pCdjnKb8a$hcGmTaa+7e2bMEmTTbBgPb)_c+
   b9a$(*p%dXa$o<bra$RblaXa$L*ra$xWCOaaxrataWm4bX>0b.f%jAf9z5a*qktnss>^a.o^a*v<olf9a,[Za,f8z5a*vM>^
   a,[Za,v<a*p2fMa,c]a*o!jJb.j=c^dFaxp9cEd>z^<Fr1d~cS~Ho!jJ+%u=^9zmCau]ccdnCb.sLa*rNl8c+hwb4>^a+i+z
   la*zHU*vf!a*zrmmbTxuf5nW.tGb*fMa*+kh=vja+qkcH!)a*i=ocjMa0%nr1cSj^z5]Yf9aWm4l1a!ccCm7o(a!|Aalb|bQ
   jtf7o%e7bwa!&dh<bYuNf?i3e;b%cCd!kk)Bf!d!abqZd!c)hKbLAa!b=q!utbbe5|^tMr7|,b*Fu<,nbOai|^iMTd*dBjyo
   j*T-!ya%&da!i>bPutbbadcJfN%E:.|cvS*T-!y|ce*..<Xbofzx5&dh<cDnObgzAc,|adW_kEt^n5bdYc.|cbya%&dkV|ce
   2*T-!ya%&dezal>jbvgeKclq&b5b!czaZVbu=M*Pn|dP%xz+kPi^a!bJb%Cr7&dh<eNa!m7j*%xO*;a%tvpH-tXm6eNhqhSv
   &m0noa!dALVaa%xc(bbj+|cbopH-tXm6bYa!djaobId2f!|^iMTd*dJa+m6dda%z,|cbpgTcea!f;)Lc7Ta$r!s5a$c2r6tQ
   >Xl8bB[Xv2m6%Da!fXiUIaXy?&dd*bybqxZbIa+m6dKIi~-x~afbgzVhqrM^Ch<dBfsa&mHhqrM^Ch<kha!&d_(dh<it<mkC
   bUJezb,d?dOe*pKpu|Qz3y?gkaoyuLScIBhqrMd*cmczcyiYafcXabaiadl8bB[XVcjr$cms0<Uq$d3a]craaa]zkl7t5a2:
   rxgdG=ajWg<=aov]i(Ia2dPv7a]f^bWv7ova2dGl3jW>kov]ja3dYjFs0cDbgnR<Ua$j+ad=|aYa2hIhui&n0hc|j]ge8t%a
   2lCa3bRe8+]a!b;e2%]=|g%nEr:hctUz?a8ukg5t%a8lCa9.u+]a!j+ad=|g%+]bYitf^dllVa3hca2j[lC,Aj[Ca!j+ad=|
   aYv7_hDb*jla3t%dJabeqa8lVa3lC(Bcjr$cms0fuctt5cZpuq6g.g=aWu:ha,?a$i4a$g!a$jMa$e,x$,3a$&ea+!Ma%n)a
   +eV,?m?a&s4%nag:?zhg!vVg<edara&i4]Ua&s9+lmAa&s4+k&)fza&i4]Ua&s9,3]Ei[b!onj>e!a&s4+lzRa&s4e,c.ag:
   ?cSa2cSoIcllkZ.Kola!mBj>y($Ga>s4lkj>y($Ga>s4sDemqn_s9lkcSemqncTo2v<%v[;d>ola&[Za!?l%cpYfBfzvVcSh
   Ffzw:sDhFa!v<_foj=ola&[Zonoci4a>s9mBocg!a>b]o2i=oci4a>s9lkocg!a>b]o2sDh=)ja$mBcSq1:d?9cSw:g!gZkN
   f$olSa%&ls9fEjAw:i=jAa$i=jAh=cTo2fEi+cSm?a(e,c.a(s4fEi+zh&l$de,ti,3a%&ea,!M.)<fvVtsa%g!a$%nafbc.
   HaXa%s4mBj>cHgIa(s9fEmjbQzh&ls9+khFfza&s4%nq;zh&ls9i4?d&)fza8a[byarkQaYv^)AaLd&wfcSa>a[byarkQaYa
   !g!?d&)aga|a!?l%chF+4.)tpa!,3?d*ScSt]j=a!lkcSq1:dmBcS]JsDcZ+lzl.*a(e,ti+lcH%&e,gsfEfom2zhv)e,gsf
   4_a||djUpB$S=>[H;>a!!~b*EjubbvN^KEjubba!?yafcftQu=pBa!d7Bb(m$=*hta%p0ada%b;+So*b4Ab4q^vDa%^Ksbo*
   a%b;uto*cZq8qbf1nO-x~qb&Iajbdb,&Id.bgzVgx%W%xxD-as-moa!d|moa![<.M!ib$xDa!x1]Fa$ica$[W$pb,gDuPblm
   Tc]a]ezuiasbvaYhFtQ[do>d~eUa$a$.yUf$xrcvaZbuaYa!tdeWcZ^KtdeW$S*kLhFa%oWa!;Xa*asa!w?a!vntQ;d]Pa$t
   suPdEObBxrbB&JcQd(bVuPmy.,dEObBa%v<a!a]i<c<al.(CnHb!<[aoOezuiasbva!d|xDm$Xj*b|?Batcft$qbPasbvm]a
   tOf7hsa!&a]Kk&a!kJb(Z];czd;s&bWlKalhUqb&Ia!p0k&a$xDa!dncuPiBhszOu$a&oWa%[7eqa,j5b$p0AljzOa&gQaka
   Z_[7eq|La%aYe(bba&oWa%,HhmlJa!zrk&a!a|u$a$<!?ITa%vIatcft$a|o>[Ho!b*c7ula!,:Ah:b4$!vvai?Batcft$zO
   u$a![7eqmDpYaswab*?xqZa!?xqZlJ_[7equ$d!jsmDcZhmb4[Ya!vMaau$a,uPasq&b5DcZdjao%jcZ<!y>hF;JmDcZlRbD
   u$a!v.bokgbe[dhA(CdnUf$boo>&VbQv.a%oWa$f5accpa%oWa$|+bweqdJy;?ITa$n,lJmDa&ina%n,h=a&ina%n,bo!ZoW
   a(sHg9bCpMa*sHc7ula!p0<!?Ib$iBdRhka*sHgQakaZpM|Lu$a.ina$n,lJdJy;?ITa&ina%gQakaZpM|La.,ElJdB.Pa!i
   nlJpMtSakaZpM|LdB.Pa*in|LpMeztz,[;[%<riasu$a&$QSwdtzriasdJy;?ITa&;[^K%<ax$Q&+(axrt7a$p0A;Ba3!X&+
   (a,5a(!Xa%gQakaZbto%(a|La6!Xa%z)(aazoWa)!Xgxn]kFl6,;a*vn$p?xqZa+^Od$a*?xqZ,5a0^Od$ajauajbM$jzel6
   %Wa*dHvN[<.Ma*d|oRa+ica+x1a*hmvNmjqhbQmol6%Wa*dHvNd|oR*S^ma$f8a$cPa$bM!hb|aZbvldlRcZTh$clf4j*cZz
   roVnNTexz(aXa%i+oV_cH%F)m*CbWa!p0Th$cl^Kf4[XNg)brbQi+oV_i+d~Texz(aXeztzrimm!eqYa%;[[+,bht+So*b4A
   b4[+,bnOas;L,bht,5a&sbo*b4Ab4[+,ba!^Od$hta$xb,aMn]Maum]aZMaihLutogG+>bIeGXa!m&c;brclXasnOb>nOas*
   SeUazzFa*j2nO-abkg;Xa2asa*w?a*vna!nYa[i0oRa$bTa$bb=5.~b%k3dHcZy3aocle,(*rmcmA=o.LIbakEb$*C&Ia(ti
   f8]Sj[t0hmcZyV_t<g%asa2b>*R;Bd.t7a*w?a*vnezaibC:ea!hmc8(|*kLhF(Esva%sHuo$AbCpMcx.Pa$n,mDpYasa!in
   mDpYaspMa(a8infxtzdjd)UyhcZ^K%<b*asmDa4eBwSvfoW~c?xqZ,5a6^Od$a%!Wb*?xqZlJcDgDa1^Od$a$n,bo!Zp0<!?
   ITa(ina(%<dja(;[p0[+,bht%F)msbo*btb4[+,ba!p0[+,bht,5%F)msbo*btb4[+Gb,koasmDa!d&|qc+eQSa$*At|dua$
   kod~oba&cPm$=*htazqk>Aa:oVbtb$q8a)b;dJ=*htazoVm$=*htgN?LfNeba(b;m$=*htazyWa8g<>AcZsbo*Sazqk>Aa4o
   Vbtb$q8a)b;uto*SazoV+So*S=Feba&b;z2;nbodN_q^vD.ca!iGbVahc,m$c>t$ol*Q%Aa!kotla$cPezb,e7CzKz3Sg4Cz
   KlKd[e*pKe,j*+Pa$gse,mva$gslpnNCui<ea$nrn+<e]KoWc,$p^gclzF!iGpB!i=o*P?TkEt^pI!2?Jg](BfqWc2bD+|P+
   !qZl&ahkQ%xpuoWlK|<*QbB[gb|:~f%*5a+x$lpfYa+gsnrsnl&;da%lpjF.hcznKr7kotlgqul_g<)AcZbdbv_dAo>aZ&up
   Y$!gsXl&bt!ebws7o~a!zm$2uOx:~:a%vwa!aZ&upYf7fYf[acZacb*icd!YkTDt$aio>a|_abOdWgib,bRaXczcu=cgAhqg
   DaYe2bLtqa!y:acb%k3^Oaa+SbuaYc*au.C+(clCm7ahbAald!m7ahSr9a!auLcm=[aYf!_uAc7cXd)bci|_oQ<vmDa>tdeW
   a>p9a>JgDk1d>~Qaf==a>JgDd)pQfza9,+<F<v.Mgmm5<Fa>n,a>ina8fE,uEa9g!<v)ja?g!~Qz^<F.:x7_yWa8lRbDaf==
   <v.$bYab|T;:cPx7rwgDa8mB,ub+oQ_mBcS*ex7h=eba8lRaf==<v_bMbYab|TlR*ex7rwgDa8lk,ub+oQ_lkcS]ngDb*yWa
   9lRbDa9p9a9JgDa9pr*e([b*JgD]ngDb*oQ~Qw%<v+3*ex7_mMa9lRa9bbaba9JgDa9pr.:([wU==a:f8a8t0mMa9infm=Cf
   za8lR_:mZcivEz(dU:mb!)u_yW<vmkb$hma>&V.:bYabtGk&a:up!Paq],&jrW_yWa9q3a9noa9&jrWa!p0$^dX*SeUazlkZ
   .KoltROcjqHbQw4o~.(d]x5tnd;.ZbTtQSaZbvf!uPdEaaU><mmlaa%bagLdEaaiQcCa$y=bGh|a$p=!2a!)Fzyemkk_tnpK
   acah)LaYahd7vezma$bOLM$k)AazoWbCa*eGs7cPf[b,<5j=azk>c0i9cSa!bLan)Lr(d9^na$HnvahEh|<^d4c[Uai-tquF
   b$H-+^a+L-+^wddnb%bWgiiv-cP-tqPgMwddnb%bWgiiv-bM-tqPgMa!bakEb$mSRaw&=M%Eczf1b:abE-F=[x5auLcm=[aY
   f!_oQuNCg*aYqw_zmf!ezalh6><PdNmTgQe[ezRdwafu=acf!a%CaXabom?ifbm;d0e[.Fa2eXm;a$d~?ifbd0e[.Fa2eXm;
   uOsBhQtGfb+4a8p?.Fa8eX+4a$c.sBhQtGfba8p?.Fa8eX+4omyVbohQtGfbm;d<h.=pCb+eXm;d!bBeqbohQtGp?.F*SyVb
   ohQtGfbm;d<h.=pCb+eXm;tQ;ddJe[.Fa$due*pK:nas_>O,Mq$g8a.d~as_eXfYczbgzV%va*lp:~u,a%lpp|%vu,<[bac;
   f!_lpom:Eo~)BxsduafCad)Bbih7d;e&h7d;i?h7d;pkuMnTbbgAf!w2d&c8%vn+aFlpa>gSj=a:>$a<upd&azj2a:>$a<up
   d&c8s&bWa9>$apa<up>$a:upd&c8%vfYaFlp$p)%a!jeex)LEe7bwa!tnssp?.F(CeGc;boalbWa*fBh=$)Ta*!&fN!ga*fB
   w:e=$)j6a*e=$)Tb4fN!ga8rTa*eGb!bVa*bxz+b!bVgZaw&ubVm$$(dBoJjF%A:~(|meh|a$lp:~zXeqn7a%lpa$nrc*as*
   (a&lpqMlHau!KgKf[acZacb*ic:[r0b9cV)QjFhD)Qa!cczXRawm$c>bNc;l&ahsxuNCg*aYdJXb5awx5k$c.x:cHsLa,f8j
   Ba,(la,)0a*c.x:cHsLazoVa1f8jBa,vwsL%aa!aY$&bYgCr0bdW|<]Hw[bYgC*QbB[gb|azFbm+%b>pH:(fYjBsLa3vwa3(
   la3)0a!i+oVpH~cf4j)ajd>iY_kEt^!jWaZ>Va[-f1Fa+a[][aXdfa$%:SaZbJ|rczcyiYcDivr2abo(_edb.a>bxe[a4g,h
   *;0Mc5m)<ibcbhYb3bPyHou<$c7d]e|m5pCccaxduge?7h7sshnari(ge?7|xM:AarcEtYdNb*jeexgE~ytqa8lOc2bDe*r9
   dJgLau.X]9+[_%%(i:Im5yHouGm(rtbCfZ><f5aXa2q8c*;0Mc5m)z]cE;Ea2q8:(c^blbbaigMax|yauaxbRaXqwa3,ba3k
   Et^a3.rc^]$.XaXbxf[uEKx5w4o~czcyiYrFWkT.Xr6b*jl%Ea4z)bbaii;(RtBa!y|Rm;ajbGbha*:ea+tva*%zb$j5bPaX
   a*y3(=Ea*B)]boad,gf5nT(nf(a*cXm7o(_$^a*mjajUbbataZj~Cm7b$Ngu*Wz^<F!ufV2$kq6i.d;)Z|j]ge8hy:w|Sf^F
   :wx2l(;ld0aygrbEd;gruU$Smeb%ZbQq6i.d;)Z|j]ge8hy:w|Sf^F:wx2l(;ld0aygrbEd;gruUa!f.m[FoZa,e=a,g=a,c
   ]a,gpa,dxa,dYa,f>a,r*a%Nt3a,Ez?a,ukbWa,hygra,|Sa,=agra,x2a,b!;la,l3gra,r*gra,j,$Smeb%ZbQiHm0)r$k
   ;&)rk0b0)ra*ggOtS:I;FcDgudJz?a8ukg5hygra8|Sj9Fgra8x2tV;la8l3grcrd;gra8j,*Rj=i0q6nEaajIt3tS:Ipri0
   ggOa!o~itb9Wb.b4lwdua3>Cd&a3>Czrmj_dua5>Czrmj]Da5>C?XdUmj_dua5>C?XdUmj]Da5>CcPs=]f,J~$]r$O[ts>cP
   s=&EcPyBcPw2.jdy]r+F[ts>cPyBlwbMs=]c,J~$]r$O[ts>bMs=&EbMyBbMw2.jdy]r+F[ts>bMyBlwd&s=i(,J~$a2;7$O
   cP>G<oxp$O^vd&xps=]f,Jd~;7a3bM,Jd~cPa2s>d&s=&Ed&yBtnfh.jdya2;7+FcP>G<oxp+F^vd&xpyBcPw2.j;7a3bMw2
   .jcPa2s>d&yBlw>$<kdy$OcP>Ga4~$yBcP,Jduxp]rt,e*vhd~lw.jcPxpa4e,lwh9c.a2s>>$a4lwbM<kdy$ObM>Ga4~$yB
   bM,Jduxp]rt,e*vhd~lw.j;7a4e,lwh9c.a2s>bMt,a4lwd&<kdy$OtncVa4~$yBtnfhh9duxpa2;7decP_du>Ga4cPxpdeb
   Ma4d&xpc8a3e,;7$OcPa4d~;7c8fYa3e,cPxp$ObMa4d~cPxpyBcP,Jkoduxpa4bM,JcPa3d~lw.jd&a4e,lwh9c.a2s>d&t
   ,a3lwi+mja5>Ci+mj]Da5dywfdua8d&]fiE$O+Ls=,)cPs=]fiE+F+Lc8fY,)cPyBbMiE$O+Ls=,)bMs=]ciE+F+Lc8fY,)b
   MyBd&iE$O+Ls=,)d&s=i(iE+F+Lc8fY,)d&yBcPiEt,_+Lt,,)>$]ciEt,_+Lt,,)bMt,i(iEt,_+Lt,,)d&t,&EzF.$s=aK
   f8aAbMaK|E,4fbnNp6fYaEe,?^k1gUa8f8a8upc..:a2dy~Nupc..:h7cVf%h9dyn+*edes>cPa2dyf%b>w2c.*edelw|Ofb
   snz]a$eX?Qa3k%a+>kova+fRa+y7l3ova+$Z*EdYdJayova$Fiva$f8q$d3dJayova+$Z*Ey7l3ova+fRa+>kova+dGk%a3x
   Ca$d~fRa!rlpLbe]Qa$Dcba!fb?Qz]xsoQjVb$eXx(c.a*fb~N&Ff%&Fn+aFa>fbnN&F>aeXn+a3a8&FfYaK&F_gsdDh,mTe
   Zaxj]?W*5S+J?Um,d*+|!Wpsdu!fd]a3d&a3hzdia[aYbY+$b)|<a3:n?^a9d~p6fYa3obbY+$b)|<pHd*zy!lk$.OeUa$[0
   d&!ldD(|*koOeJa$rLk$(lsLa%[0(l>1[0vwa%[0vw>1rLk$vwhhm&!lk$)0sLa%[0)0>1)GdDfYjBa%)GdDfYjB>1rLdDfY
   jBhhm&!lk$p9a$eZpNa[?Um,|hp9a!y6nJa!^gcl>Pa$urn<azd&!fd]f[ivb!c3pHj=n<?v%Oa4eXa4fba9d~oQRe5a4a|b
   o!ZfbfYom+pj=xsgob!bo)7a*>Pa&fbsna(eXa!:noQjVb$Cc[ji_zF]aa(eXa.f8a!fbsnj=a%eX(D>Oj2a3f8a,fba3gsj
   N[WqhE?v%Oa4:noba5eX_gs)Fh,psd&box^bwcUlaa*(lsLsva!(lsL?va:gsiAw<a!)Fh,ps:noQRe5a:eXa?c.a:fba+pr
   azfbfYa:eXa?c.a:fba!:nj2a+x$eXfYqMj1zy*T<aj1>1dDa!>Oj2pHafbLaz=RyEb8gRa!d^alkeczyHo<|dcfpHw%a$rL
   rlNlQa]mmbbasMczbLa!dnCg,b.mkbea$v:b.+SJ=[a!bd!2(Dbxn|dPa$rLyt<?bAbnj]$^oDczaYaoala!d^alkeazujit
   uicZc9b$c7bJ>:eZwUc9r!=pj**TtRcXb,bP]Kv2F[pg%=^b$[WpHf%+ohTa,ti)FfYa,bMz5a,cPczKivc8p$BdPyEnHzca
   $b9baOcczKa$p<ObGZbHd!c),sb=cZadd:a!hzOanXp$wcIe2c9d!(cf1e*asb9n0<4cCAaXM;Jc8bY^HjF^8x5AbapLKaoa
   !h;w[c8qVbPaXezEccEx5skkhc(hqRaeeJiYxockack9ax+0tTmmfD%Va2&,lB.s|klKq]htitg?bIqMF.hcUi!][npb.*Ta
   !eZwUbLaz=RcZbRRi9k%bpsca%b(bbgxaZmSo>hn%ic,m$$(xqaXy?JbM,eczbrexa!bBiKnOdfTbLclPd(iBa!abfqcZbDb
   BcCk?+CId!owpIaXO(BbhmUa!c+Bb9|^asnqcCczdNaiT*rcCd!aut$j&!hdFIcCezc5j*cZjNoP[otepycNe|yQdZNvh,,(
   DoP[otepycNe|yQdZNvh,,d.ibbeafUai<arBa+p9!kbY[ra$eZwUibbea$k$rBa+p9a$eZi3[r*QTm>iccZk%xEa$xC.(cX
   bQxCxE*Ex2a]a!g9b%CcmhDuwNbrbBaYa+b)^7a!eVafruccp$a%!Ma!bL[lSg%kE(:,jx5kE(:,j&=c*]=bibyy.hs*F+^c
   6a9+^e&a9+^e.a9+^ega9+^fva9+^i?fw^:buerahd,cZk$bL[lSg%kE(:,j)LkE(:oubyauaZa%hbaozO-kE(:ouz3o<awb
   yauaZc,lKq]ihbhx5bab*i!bia*i!c6a*i!e&a*i!e.a*i!ega*i!fva!>PgN|Ex6pHj=apq;d||Ee=q;c4gx^0iYkhc(k.a
   aa!dheJiYdBalh3khc(nwb|aZkhaakBc(cxalh3khaaqM[e!ka!h;w[c8:.bPa!adbCasd!gUarafWt^cZ*Hu?htbt|ycjau
   IcCczpqaXcZAaXM;vjFeX?BabczbDu?htojaZbVcZbratx5f+bB-be-c+cZtqkTarp3w%]Jlab4sbbJGcU|Ef8lKabNb.%x:
   pcQLtcmTcHD:A%ia+%ia%m&gCbQhn%ic8a$%ic8:A%ia+gSgIa9b>eraXc8:A%ia$d&eraXm?a(dua!j1gyw<a+dD..gyclM
   tY&1)Ltdasj*a$bLMtYbQ~lNaZ.cd!f1FaajFbLaZg%exnOb=ahd!i<cZP^UcZJbLOa!bW*Hwcbha[pHw~k3c+Lak!iXaor7
   b!nKb!Xaor7bcaaCbLX!iSy;oQb9bxczy|CaZ(vf[&uytqhbQdAo>jNDb9uITb4o<dZlQdDitb9uITb4o<dZb.czyHo<aptq
   afyHczbLgqH%V.zgRa!ujpHafyHo<a!a]mm.zgRdeujhqrMp3([r!=pj*a,dDqMnYa[i0aa+|?auE,[baSfWoubY=5bdfpUb
   CcCezIbPd!abafs8lQbOL=capgyi3gU$jp$cUuE,[ihaacZNct=Da!xAdP-$IfYageyc*b9F(na&k$e=-$Ia(rLdDf%uEb*w
   [vIa&rLDbNbWafbmy?dyq;)0sLom,Z=Dqhar*uaoaljFa|cU,4aagyw<l&m,+|dDc*h$bP<Z|+bwarf%=Dy<=Dc6a!jbfZs)
   aY&=_bBiKa!dyj=)eh9ndfMezawdNeJ]RdTbQm&+!%[)OdTara$tvpHbY(ca[affpe;DtRdwOkDRpKbCbBbCd!jbr7fpbbas
   buafaiclvIabap:OHbla*j]dTaXcZMau&=e*aya]>;ld.sa!d^alke<RdBoJa!c<.sjFnVl&_c9aXjFaZgAczAcibAbr$pc]
   +4>)gPpIbuwUKbrcld?l5azythqaw]Obo^;)LedbbdGt6YbHjFUe;by:%d!koa[m,+|jN[eazdulSm,caiMcldDafgjcf];w
   Rb|asSa$fbbob(be!ka$eXbob(bea$)Fa*s>$^dX*P?Tb8Cf(c,hqaub*DbNbW!hbhi>cl=:+(clu&+1a*dTa$Vbuz*Ya$W!
   VlQ>OPo!cia$a$fb_gsjNN($!ka!$^dX%Ggx,;<Q%Ga$ytgD%Ga!tqkTbQv&p$%G<^li%Ha$iHa%.b(]p3a%tqkTara$rmbx
   b!;J;!c2Vf5a!t*|??KbQx1a+ytsc?Kar%Ha$c]bY[r?Kvfk$c]~md2w%a&rLpCcbaXcZ=elztqkTarp3w%a%;F<^lim,!kl
   igymTtqkT(m%Hwdaa,xa$.b(]gycldy(xrZ<^lia$f>af)&ara*fQ(mw%a3[,a$dxnC(ma%EfhfQbQkEfUd;aba)dya%ukdl
   +Gd2a!x2nCbQx1a$|??K%[foli%Ga!dxbycfaYoum,c8q;lFjebx!ka$)GEfhPcfaYou:>kT(m$kfolidJfh+Gd2w%a!s>|?
   ?KbQ[,(xrZczyH,^dAa$TfheGc<c+brmTs>h:VfZczPcbaXa$dy~Osc?KbQx1a$Efh|??KbQPuie;q!*Ud!(ci^tRA(]gyw<
   tS:J~dC(ci^a!>ODuiqBA(]p3zya(fba%eXn+pL(]a(fb(DwC_!$a&)Fa,E,B(Dp9bp%Wq;Xa!dydJy]x5lwoVa%j1%Gd.hP
   |Cp=$6,O_!$a6a0cHc*rMa6a0bmiEa6cHa$mSvQ^D(||u%xdydJy]a.rBa*k$rBa!v2dym,xoabb$[WjF[pg%rBa!v2F[pg%
   =^b$[Wa!j1f%?i!$z5a,,^ecacarfY%O<ex:~:a.vwa$dyfYx:s7,Oa0vw<ex:~:a.vwa%rlf%z**(a0tij1f%yVa.gs%3i[
   b$gQ:Ipri0q6&oaaoyt3ajd>D^C(A&oaaoyt3a*gQ:I;F^C(AdPaEe=aEg=aEc]aEgpaEdxaEdYaEf>aEr*h)t3a!dyageWm
   2sDa*mouwxDa+[<d.gO[=a+g!a+&Na$Db9FTb.~mb$v)s>oJ-y(P%[,.%Ha&mjar*U*Ta!:sD%v-rlbQsDeda,lp-rl%[dDa
   !dym,zXVbQlkh9sDa;z|SbctEdD%HutpqbW-+Gd2a%c.qBc)arp3a&f8qBc)ara&,+-fUd2pL(]a(FRdE-fUd2a&s>eXn+qB
   A(]a0fba(oW$3eXd!bBeq_zRa!oW$3fbn+qBA(]q;sDa&pri0dya%)F-hn&Gar!k-hn&GarzItpa+g!a+&N%Gm,-hn&GarzI
   a3g!a3&Na$|?-jjbQv)s>|?qB^;%[xjvI-bDIou%Ha%fo-tqkTvfcHzXeq_zR]Jy:.Fg%eUqMj2ut?Ud*q;j2z3%;p%jia!f
   o;Bd.t7uOaf?e+.dN(?c+nKahxsasgN=4a!rNl8c+hwb4%<b.;B|b.^%<b.!)a!oVazdukIclbI>Ycp_uq:<a!qk[<xq>Ycp
   cma|:<qhbQ;Xa2asqMp9emawf$.!a$b>apm$=*;!focU=]>O*5sva&fbfYomdQah_k(]TFiva!?!^xa+cPomh9d~cHc*exz(
   aXwhbPl6n]Maua!fBnN^m<ea!^x:[f9a!^gb*tdf5+.kgdue2Ur7eZi3a[pqbW-b%DbQp9a8gSq1uca?g!a+!WEap$Ga9s4b
   I>YcpfYp3u,]a*ZeUz5a,e,cH]a<eq;z**(a0c.r1,^ecacbQ$ta,gsmB?XdUzhjMa$v<dBnUbQpra&[Z*ScS:[Dzea!fB)j
   a+g!*Zc.a+fEcHa,g!a,e,c.a*+k&)fza.g!a.fEcHa0g!c^bc.HdUcSf[b9ciaXzdavNbouEKdtg|h!v||~g|3h!3v~:Q:x
   :yw!w1w7w8cKegdt5g|5h!5v|5dtf=g|f=h!f=v~5dtnjg|njh!njw!5w15w75w85cKfvdt6g|6h!6v|6dtf&g|f&h!f&v~6
   dtjRg|jRh!jRw!6w16w76w86cK-dadtdag|dah!dav|da|~dag|3dah!3dav~da:Qda:xda:ydaw!daw1daw7daw8dacKi?d
   t7g|7h!7v|7dtgbg|gbh!gbv~7dtnkg|nkh!nkw!7w17w77w87cKeg7dtixg|ixh!ixv|ixdtf=7g|f=7h!f=7v~ix:Qix:x
   ix:yixw!ixw1ixw7ixw8ixcKfv7dtpog|poh!pov|podtf&7g|f&7h!f&7v~podtjR7g|jR7h!jR7w!pow1pow7pow8pocK-
   trdttrg|trh!trv|tr|~trg|3trh!3trv~tr:Qtr:xtr:ytrw!trw1trw7trw8trcKm|dt8g|8h!8v|8dth]g|h]h!h]v~8d
   tl1g|l1h!l1w!8w18w78w88cKeg8dtk|g|k|h!k|v|k|dtf=8g|f=8h!f=8v~k|:Qk|:xk|:yk|w!k|w1k|w7k|w8k|cKfv8
   dtnGg|nGh!nGv|nGdtf&8g|f&8h!f&8v~nGdtjR8g|jR8h!jR8w!nGw1nGw7nGw8nGcK-s<dts<g|s<h!s<v|s<|~s<g|3s<
   h!3s<v~s<:Qs<:xs<:ys<w!s<w1s<w7s<w8s<cK-eKdt~5~6eKv|eK|~~53~63eKv~eK:QeK:xeK:yeKw!eKw1eKw7eKw8eK
   cKegeKdt*+g|*+h!*+v|*+dtf=~5f=~6f=eKv~*+dtnj~5nj~6njeKw!*+w1*+w7*+w8*+cKfveKdt*.g|*.h!*.v|*.dtf&
   ~5f&~6f&eKv~*.dtjR~5jR~6jReKw!*.w1*.w7*.w8*.cK-w.dtw.g|w.h!w.v|w.|~w.g|3w.h!3w.v~w.:Qw.:xw.:yw.w
   !w.w1w.w7w.w8w.a!i=>Mj>zlaAcHa%fEi+cSap%&e,gsi=>McS&)fza&fEcHa(s4lkj>>Aa(i4a*zrzh?9i+mja&v)fEts]
   Ua.e=&Ma*j>ur^Da!mBcShFfza&s9i=j>mAazzlaGcHa*>Mj>mAv^zlaMcH,?-mAa$g!vVcHa%s4+khFm,_p9.*a&+k&)fza
   )sDa!?lb$b>zI[=a+Ednb$b>zI^Ea*c0i9j>e!a.!Ma(n)a.eVa!?l%cc8)([=a,Edn%cc8zIa$n)[=c8zI^Ea,c0i9cSc8)
   (a!uq:<p$cU[c:<a$[c:<p$cU?pczgO[=?[)(:Mb$zhk>[=?[zIa%[c:<?[)(a%uq:<?[zIa$k>[=?[)(^Ea+c0i9cS?[)(t
   plK:?,Rba.Oeq_gs,Ri=^1zXVcUi4aEjMa2lk^1zXVb.$GaEs4%yvizFbYmyola$)OvizF_v<a&nra&lp:~_zFbYmy]ExDa2
   v<]Emoa!eXn+[;c[jibYmyol<e[;c[ji_v<a$v<bYo[pra&[Za$sDf9$)T$GvVcSf9[&g!a$!&sDf9cTo2i=j>z%e9a(b]o2
   sD?t<Qomd~cS?td*j=a%mB>McS&)omlokod~locP_jA<onNlobMa$bM>enNcP>efYa3e,cP>en+a$e,lokod~lobMa$bM>en
   NcP>en+a$e,locPnNlocPa$bM>ef%cP>efYon)fhFfz*V~wmBocc.]V~wfEoccP*V~wmBm1jjfY]VjAvV)f&)*V~wmBocc.]
   V~wfEoccP*V~wmBm1jjfY]VjAon)ff9q1oc|OmBm1jjf%c7vimBocgsi=)fjni=oc|Olkm1jjf%c7vilkocgsfE)fjni=)fa
   >cPjni=oc|Oi=)ff9q1)fa>cPf9q1occPon)fjnqkmjaAcPj^a%i=)ff9aAcPj^a!mBm1jjf%c7vilkocc.a(lkm1jjf%c7v
   i=]d~i+j>?Weda!txjnsDa&&a,?jn&a.*a8[8(Ef9)j,??tpMa!injnsDa&z)kF,??t;B|b.^fM)jomy6x8]TbMa%|OzroV(
   ?c+nKahz2;nafc=cJdOPi3jsuOgy,%eqn7xsf8q;$t]SZ;nf%?xnWip%Oa3e,g>%3a4gs~GazyWa(gs~Gazucl&%v+4a$c.u
   ,azucl&_lpa)~Ga$c.u,azucl&%vom~:sva(gse,zFpMn7a$d~zFdB.Pa&cHfYa+d~zFpMa$e,dDc*as*(a(gs$9Fo!cld&e
   N.Ke*pK.yUf$_s7fob.fY*Ss7e%Ie5ap+|.yUf$nNeUsva!eUo&l&uha!:=b*eUczcvaZbug%s7fob.fY*ehqhSeUa$mHa!e
   UazyWa&mHa!%:+Db*s7focUupcP(CdnUf$_eUazw4$&_g,cUaaolnCcUbMs=aQ,RbMc8>a,RcPs=aQ,RcPc8>a,Rd~h9bMaS
   &%b.>a,Rd~h9cPaS&%b.fY]K?yaf)6?yafcf=Feb.9j=f9a9d~cSa:f8n<az)Aa$pri0d&~[*kLa*rN!)a*d?%;p%jin<_td
   f5+.kg)Ac8%vsn_tdf5+.kgoV<dafjfg*pZbQX$kv<-v2[<y?kocS?tj=$jgynW)7a+dRhka*inn<t]j=pY$!c.a5g<>AcZ!
   WbQuq:<.Ma,[cb.]YgTj=d.dFclg<rTzycZj2gN&SyWa!b4aasLa!j2o&vbb4tElp*Sj2f9f%j2omj2gqvioVa!oVgqvid~j
   2a!y3aoE?va4gsk$y3aocl&0?va4gsjNc9bB[gb|!kuOag.Heqcmacj*]Te,cHxsaap=jUTb*aa[dYa$aob*fNtQ[dYcDg)b
   rarazoVa!tj:qMn]MauqhEemdEdQf$:>kTclaau=&ub4AcZb)UFf+qb&Ia!txc8%Yhb*kLv^t0fMa!f5accphFc8%Yhb*kLk
   ?aX<.cacba!!~e(DrtcXbua!)0sL?va:gsk$p9azcPola*^gcl>PazcPola(dDa!aZRas->Qp3zya+dDa*jNp9a+dDa*>Pa+
   dDa!h$aX-bevjvfrNl8c+hwb4oR|av9=Feba!rN!)azdukIcl[T!)a+rN*Rzea$tsuOjBzXVbQ~:a&vwhqaaYgxaaYnO-x~j
   =i0d|oRa3moa3dHvNvn]Fsva>mod.dFb*w?]Fa3vna$g<;Xa3asa$N-abkgdHcZe(hwb8%EafbgczbgzVazaa;da!?XdUaa%
   uRg%oRjFf)b*hbb$aa;dtQ;d%agIa*AbJ&1o&pQd!c[UqYcm=[a!v<l&bxjEbva!t|aabxjEbvaz.Oy>byhU_abOdWhhaXa;
   b!yzc[jia3p0aaCd(DcUa]claa%uRg%abOdWbt~mb$oRa$bch3NhAl&;dtQ;dapq1j>e!a2dHpDa2w?a2vn~Beba2yWa!k(a
   !yPf%eGs7oRz2;nafh:bIuu!2fxkdb.fxb,e7g8a!xFt]j=f9a9C;(a9:ms?a9:mz)w5igdDsLgx%Wc,em=Cgzg5s?jca|cU
   c4a9uqlQxFl&>Wj=a:gsbW=olJbY(c*C&Igx,;c,gN?LyW!inKbakEb$*C&IazlpbYjJarcz(kqb&Igx,;c,l&>Wj=a:c.$j
   bp,;c,mF$egx,;c,l&_cHj=$k[<y?xFl&sLa&xDa&M,;a!m&Iasqb&Ia%bFa]b>z2;n!eqYaYuu!2a!cXaYd=zVlJy9b,&Ia
   !w?sva!vnazxDc,~Beba%w?a2;Xa!vnazt<g%asa*yTw?a!w?jnvna!vnjnebjnw?a!w?jnebjnvna$vngqvih9rTapa!w?g
   qvih9rTazw?|evno&vbSa,w?*R~cw?a2vn|evno&vbb4b>af(kqb&Ia!;XmJa.asa!i+;Xa2asa!g<m&b!bwcU;Xa8asxr+(
   cUiAaxb>a$t<g%ash=LnUcU!6a*b>azrn^Da.asa*b>azdu<Va.asa*b>%ah=eba8yWa9cHa$umbWEapa!t<g%as%ah=eba>
   yWz2;n]AbIzE%Xal|+g8a3Rc(cltxp1a!f5accpmJa!zr)Aazi+zlaAtsa!&agN?LuqcUc4a!iU|Xbp%Wafg*|Xd!jdh$awm
   Ja!hmSazx1a![8mF$ea![7eqmD,5a!txjnxFa$xFjnhmcZtxjn&a*R+3mDa!e=utb!CUvetxSa&c?cltx^SyTh9,<m$y;?I]
   0t*hEfM(E:[l&uha&,EazwCf9a(,ElJ%Yv.a(,ElJ%Yv.gN=4a)inlJaf?o(ElJ%Yv.mJa)inlJaf?o(ElJ%Yv.gNyTgsinl
   J%Yv.mJfY(ElJ_[7a%,Ec8iE-t|p0v.a),Ec8mkb$[7a&,Ejntjt|hmjnsHinjntjt|hmf9pM(Ef9afg*|XlJmDa(,Ef9afg
   *|XjnsHinf9afg*|Xf9pM(Ejninjntjt|hma&inf9pMa$n,f9%Yhmjninf9af?oa&inf9%Yhmf9pMczxKhmpYaspMa>ina>n
   ,gN=4aBsHtjt|hmpYaspMa>ind.xKhmpYaspMaEsHiU|XlJpMcx.Pa*fMpMjntxa5sHcHcDkQarpMcx.Pa2n,azyWa!inh=L
   nUb.pMa+c7uh(EbYo[BYzXbWa&,EbYo[BYzXdlfM%Yhma)inbYjJarczrmq!waada$iA.Crmq!waad,5a(iApItxazB:%Yf9
   eztzrifMiE-t|txa(;[%<rifMiE-t|p0v.a);[%<riyTtxa&;[%<riyTp0v.a($QSa%%<riyTaYe(bba($QSa&%<riyToWa)
   ;[cHbytzdjd.UyhcZz)kFsva%!X&+kFazxFj^a(!Xa%z)kFazM,;a(!X&+(a,5mJa)Sjf(alJ&+(ajntxa(!X&+(ajn&aa(!
   X&+(ajn[8a)!Xa%z)(ajnoWa)!XqhEf%w4o~]F]ad!jJar;Bd.t7):.^asu$a.!X&+.^fMaft7|b.^fM;Ba%z)kF|b.^fMaf
   t7a*c7uh;Ba3h9k(+.kgmjapm$=*;!focUs9PaibC:eazbxb*nrhq;0bJSg%w?a!:elQNa[:elQo^f%^ma+cPa+bMz3%;p%j
   io&a!oVc*iMdUd~Texz(aXa$i+oVfYa%oV_cHa)cHa!qkmj&)f%q^vD;!i+d&a!!&cPx7=Feba*^xazyWb^c~[&cPx7a%cHa
   +bMa*n6Kb*oWc,a(mH%F)mtdeWazj[gQd=bv.Ma!tnd;:[f9a>e9a&cPx7$S*kyydukIax&aa!zroVboaaabkgalqYa8j]>A
   *w]Fa*gQbbarpMcx.Pa!tjlaaf?opM,5a5sHtsl8c+hwb4g>abkgalqYa!?!zroV]F]P!)qMoVa&N-abo>&N?d<fa%n)tp<f
   a%e,c.vVdDa%z|$d&N<fa%n)tp<fa%e,ti,3a!i=j>y(_jMa>=]+ly(_jMa>=]!Wpsnrsnm,a4lpa4fbnNoba5eXfYa%p9ap
   fY%Oa4nra4lpa!urh,mTdDe*eREa%[0uo>1rLdDbyawk7a$)Fa*bOXk7!ka%dupHe*eRw<a*j1_p9!ldD:(<S,|E!ldD|hp9
   (H,|E!lk$du|qrEb!a%[0d&!le,cSt]j=a!g=)jcZe,cS:[Dzea!fB$Gafbc.HdUcSon>Mj>zlaAcHjcj+fzd1iMdUmjola*
   j>ur^Da8mAazzlaGcHa*>Mj>mAv^zlaMcHa*cS?t<QlK:?,Rba.OeqfYa!txf9)ja&rN_&a,?jnrN_[8a!sD?tdB.Pd)t7on
   ?XdUzhg!a$rN_&ajns4sDjnrN_[8a!&af9)j,?jn,Hhmc*b~rN_&aa)s4lkrSZ.Kola$o^%Yk>a+,+S?ozIqMj1w%!kd*!lk
   $vwbyawk7!ldye*eRw<a*(,aYaz(,g%=4a+pr:[a2ajd>D*uaoalczxKk>]Ee!bQedf[m5S?ozI]Ee!bQmAxrxKk>]Edua(,
   +S?ozIf[awolnCcUlk^1)(tpa)!&[UolonrSzh&l$de,ti,3a%&ea,!M.)<fvVrSmjara&i4]Ua&jMuPmysLm2foj=a(v<on
   rScShFfza(i4.*a(jMi,h[6a(&ea0!Ma)n)a0eVon&[i+>Aa)mB,.*V,.]Vj2jCvfdugeB_zma%d&onrScSw:i=rSzhmBrSc
   Sq1:d$di=rScSh=$Ga%lkrScSq1:d=]fErSibIf$olSa&i4]Ua&s9fEdDj=D?da(i4.*a(jMa$v<sLm2d~U?eara4lpa4f8a
   4nra!jeexfYa*gsgQWlafYa*gsc]+4olb4Cc[LcUv<a!i=k$cSi,1lDczcyiYc*lcb*AdJc>fZbucZ:sD%v-rlarq1<!b(ah
   g%tlz5-rlbQi4a,nr-rlbQg!a,)OrlbQ$ddD$Ga,i4a,g!a,s9lk&[qky($GaKs4mB&[qky($GaKs4fE&[qky(_i4*V,.on&
   [qky(_jM*V,.pHzXVbQlkb>)ja?g!a3mBb>$Ga?g!a3fEh9i4a5g!a3fEh9jMa5s4bNrek3cS.$~Nc.]c~Nc.<k^vc.<kcPa
   3gsi4?d&)fzaz)Aa!kotll&bt!ebws7o~a!fNLnUb.p3h,dja3b>m,a,~O<?o~azlwXa$;Fa+uzpHh,i3awf$a+p9hqhSdDb
   yawk7a!dum,ceCtca[a%a*j1_(lsLbYawf$a4)0a4f8jBa4vwnOdfTbLb*jl%E:~snm,j=a&lpa!lwc]nC(mbYcCPa)lgd2<
   ac]~md2a(lgd2$p!2?Jg]a!bLCaZo*dOc,k?(bdXezd(iB,*_hIf^bWhqjVpCd(iBez+$aZ(1Aa!jbb9EAm]YGfqAezc9r&t
   Sb|cCqMe(a[q$aXd7(DnYa[i0a[p$hqh$b*lwe(k3abbDd!bMIana!bGbecZZb=cZKfZOcZauf6cna!c)bViBcZVcjCiK!jb
   !f5a[om+pw%xsbbab?va4gsfE>Mj>eGs7tlS*$s9aZIb4jl_gGe=czard7*NcC^Xbtn6!6f!okaeaa==>*h6aX]naa==dLaa
   Oh6aXd)awk7d%albewRr7txazaa[dYj^a!.rar)Lb!hbbrar]PDa$ibb|vfj[d~eUa!bOd]SbCalIvDbynHb!f!k?nVf6aib
   umC[Pw|gdffvQ.enVf6bUan%1]obbbj]>usb+kcEb8m^c%<8aqd+bOj:a8bUD<4*J))b~LogbaqIMnvkUb+d7b)bUa[bjc=r
   kJbU!V.ab8Vb~TVbNana8gdbjF!Vbj<&bjgDbj[~b)~pb%qQbN*Jn4z0bjz0bUcgaod)P)NkgfI(<b;khcCaEgSx8kBb~nod
   2d*khcCa9[Ta:nod2jcaiaqd+cosfb)].bud%b,vJbDz(_aqiH+>MnvkUb+pqgR+>bCbNh6i7[Pw|gdffvQ.enVf6bUan%1]
   obbbj]>usb+kcEb8m^c%<8aqd+bOj:a8bUD<4*J))b~LogbaqIMnvkUb+d7b)bUa[bjc=rkJbU!V.ab8Vb~TVbNana8gdbjF
   !Vbj<&bjgDbj[~b)~pb%qQbN*Jn4z0bjz0bUcgaod)P)NkgfI(<b;khcCaEgSx8kBb~nod2d*khcCa9[Ta:nod2jcaiaqd+c
   osfb)].bud%b,vJbDz(_aqiH+>MnvkUb+pqgR+>bCbNh6?cyycHfzg:yymW:mP&W*DmAi7Am?a9]0obbZjqyfv,Kv,Ze3aYc
   vkjl:qidcrWi7Vazd~e!a+m6)?aphBr3&;bZfRojoBa8mAwj+RpsoWbCqi*DmAa8ohbm~*=4wA|CE):>jTm0J$zm6okpxh<i
   mo&c|b)x8a;Zd!bdhsmCaY%5f]h6c2f]xZbIf]DaYc2f]EfquRqqdQf]gBbDf]bGbxf]f7f7f]e0Uc2f]()Af]b(Ub(f]nKf
   ]N<3Kb%f]Of]nqf]b,uRqqxbf]bDUf](7f]bRf]d:<3eQf]OdQf]iGc>gi:,hd&qbtaae3C>i*Iq4budJfqhdiGc>gie]auA
   hdiGc>gicDI,>C>i*Iq4buhd&qcedQ~icXnqf]p>arr<I,>&q~+dJb)e3Ad:Mg*bue]bOIhdiGc>gi_csI,>&q~+wb>vL?ea
   rhd&qxoI~+wbT~+dBc(e0~+itpA~+affpbI>vk^cDblhLe3k^cDblhLcDr!e3k^cDblhLcDmZe3k^cDblhLagnHhB$J_cIbq
   nK,~a3P%rbDUb,xgbDnsb,a3d:bqb)xbqVbIbZC>i*Iq4bur<IhdC>i*Iq4budBc(e0oB^eb.cDIv+pCbh$*b4dnd?a8wic5
   bZbAbGIt$e]bOIoBi,jp3a*k^cDblhL|[<ukEb$wCa:aaba.Oa8bJ.]td)NlL!5fR!*l6asPc9t<g%td)N?BzMhLm0addLad
   fwadhWn~acr3aam^acd%r;aaevr;y.d<adcr(Ua[fxabm^g?*db+*Gd%(UbLa8cv(Ud:abfw,dm<abkWoHbCaafmr;Jcifmc
   iqQaboDr;JHr;bGb+n&fpb+!^g?a8c9Ei,5lDkBNi,da5b^aci,s<]HFaadNHb0e1cgBpzBg1cgGpziPHe|aZvDj~AbeMkgc
   gJa3k.c)k.c)g1Y|Ak.|Ag1c3m:cgFpzK]k=8pzd:g1cg,cvDvDj~AbeMY]k=8pzHg1cga^cgd:]k=8pzQ]k=8k.bqcgiRa3
   AbGh4ab]k=8k.aYk.>&gld1U=8_cg[fkBc(k.auk.bfYabk.abRpziP]k=8a3eyaZpzSpzb|pzb)k.brpzjWcgbCk.brcJcg
   VpzWpzm:cgZa3bDe>aXbVcJcglIk.axfCi,6fV]Zb0=Kd,d+&>a+b!hbg]i,6nkajqS^<~|m$*mbdbu;Sb8a^e(a^b,f2OiJ
   Oa^bAd5Og[Oa^dzf,fCfJu)cejHOa^andsanfOOiTOj!Oe4c9a^c=fJGWfJGsjh4|Fh4c0i,nG0%Mn.wzb%%MAf2b!axb|ax
   b|Oi,6k*cECg[Cbf&w:)pqg[j*pNCpNCOi,6iy&9jHZbflIbqZgBjHZl2lIaxlIOi,7cRcEbCg[bCbfCbC:)ihg[h:pNbCpN
   (fi,7h[kVe1Q%CQxlQcgvcc3.TpwQfCi,mR0dZe1KYjLxlKcgfyc3supwKfCi,mR8ope1X%CXxlXcg$$c3axXpwXfCi,7f&c
   xe1GYvsxlGcgfJc3wtpwGfCi,7qz>0n5)tb0Bb+g5iP^aiR.fb+k+>L(~acu%b+^,djd%b+fI,rqQb+n4b)p!Faiaqdj-Tb+
   aq<,D<4Vd<a[dieF_gdkBbrkBbj[2aq)hYcCa9[Ta:)sbRvfd~eUo%bb$*j(aZa4uruOo%bb$*bvn7]Te,urxsu&m&c=b(j(
   aZa,ura$$9T;0!2omT;0!2n7]So|ar+|e,u&atc5m)n7xsaraiasd,bYasa[c5$SdN]*c9Sa$:e%[mHm]!ciGzZr7$9Oc7b8
   cZlkowuda$=]$9c.x:eU*RceB+Db**<a!kJm&b,Bc(ezuZbo)]m]v;azjab%cZk&^Rf9ombm(|dmb9b!n7xsk&gN?Le9omoV
   azbcciLa(gsnr>Wn7a,tilpfYa,x$f8afeW$Ib4Uxse,cH(|meh|]SndfNm[d|]&a$dGd|~Lx6xrdFbQt*bTa!y7d|i^a$j[
   &Va!:Ek&a!icnClKt^qwq+bThqhSp=bIa!u&bTy2hqrM[;jsa!c2h4aZwolubHa3gspuc2h4aZ:~snq$g8y?e=-c%<Va$:sc
   %r0acdieFbu|[a!d&v7_c4lK.Heq_tnpKCauaicjbga!i+*<]Kp=bIa!i+bm-mHpk_,Oa!mjwobMTex*RafcC%;m)dXa!kJ$
   ?|Nk+j]|NcIf9a!$?|NKa^j]bT*Raf^mbQp=bIa!ur!)a!zrc2h4pIdvfqVaYuubI$S|uUb4i^wdm*b4[a]7cCd!j&i|_bJ.
   ]td)Nd!(cPbrdOazd~p>eba9f8]HfZhLc,$a)6dvfqVaYdJy]a+&VuOu,m?a(x$~G%aa)gsnrsnf%$ta3x$lpsnfYa3gs%:+
   Db**<>ycRd!JKxnbac;!eg4brcEc+u?l(sbi0jPgfd?l5a2bAbn^ndZNjrb*$]tdaaf(l(aYw=$]i2b*kLc^|naxc?c)c^N:
   O$]=^b$$]dTfTau>yfVorcNm(bLlBa[]dhUlB!~cEIh6c+wl&,_$]+0dK%0_$]q<q*fRc*alb*lH=ZcEy~%LGkAc)axcho(.
   za]d0Ym(Pbhai_$]BcXbAbSb%LKz6;NbEtGkLa2bVb)gEEdfa2eJd0uKk^e|h$b)_$]bVbrcY^Nabcxb9lzjPgfTaeaZcEb8
   =0a2c0i9$]C;Nafl2q<q*p]a3cE;Nafg4vGkWEd]a2)%cE&^CabcJq<$8agaYKfDaY,g$]C*vcE&^Gk^a2qk$]C&^fBfwbra
   xe(dW_$]uje|d(pN&^uGNaram&G!ngjj8%Vjceqd0tEjPgfC&^E|;edcE&^csS$,gGGc9bbcE&^y6dLbhDd)aYcJq<$8agbO
   br]o<:cE&^F^ckA&^Ed3z6;NkA&^Tg$a]z6;NkA&^DrAa[z6;Nd1bB<Ga3J;Nz6;Ne$t&<Wc(juxnbac;_gGkTaxbTc^pQl(
   *4a2e!a2g.s8cYadnwGxgacahd0vhcP<TbnCfNa2buax^na2w4bAbnlvjraxc=WaZfD]*c^ika2d~w4bAlAf5cUo!b8eBald
   1^9tdaaf(l(aYcEc+u?dKbN]7axAd=aacYgOa2o!b8eBal|kc^bCf6abcxb~Sbmeqd0d3b.e|aefD%]or|Wpyf1<hbCk0)Pp
   NasPSm(*Crre(bLbDlObNbJfDasKa2dPb!LFd1bBBadd8gAgEasb$c?c)a2$9Cc+u?a2fBca.taxg<dTSgEg$cJy3c^NdQcJ
   BbNbbaXr2df.2abcJeMvDD%Lasa2dTe|)]fTauc^CiMcJbaPd?b3Xm(dFaxdzcJSbLc^eylBa[d1alaxcqr2tfbehUa2c0au
   a[%LcDgDcEathb$.bBcEuEr2E>&&,f^alcE^Ydd&GwfbnfRc*alb*lH=Zc^,k$.c(cEy~%LGdKb,c<dWkAc)axbVcnuSaXc^
   c0;~c+FaxcCaxbRe;[[cho(.zjWb%bP)Qa2$9Tawa2eZaxl!lOvqd0Ym(g4=6cSr2gGpCbhaid1hQcxujcEckaxbbb>e|cXb
   AbSt$axb%LKkAab(icJb)Edf|w&Ge~,ha2b>dKbmd0abe|h$b)a2bVbrcYaac5ahl(LFa2tYe8M^Nabd1jd]5+8axbAbrr2b
   dPb.cEf6ascxb9b|d1ae*laab!bwe|b8(+fDaY,go!b8eBalcEb8=0a2eVl(axp]c^g4vGes*km:c7^=aee|c)GaZgEEd]a2
   f$fTbLa2c<rpbADYcEabcJxWahcYj&b.fDaYKcE*vfDn0babbb.Ui|escinVwtk^a2fBcxbraxe(dWc^b(e8!&bDIoubobh[
   [uje|d(.UfZGddccaxaX&Ga3uGNarnwls&&dWnwgjfD%Vddeqd0|;edddrAjVcJcsS$,gGTa|qObhddvhSccbN(nd,agn0pq
   cjDfZcxc9bbf^b)e|bhDc^aYcJbeaZfDbObr.2[uxv<:cYciaXcJdDa2c%%1)NYdd^cd1bN:7d8m8*[<Id9axEd3d1g$a]d8
   rAa[d1bB<Gddd(bxe$2mR<]tgiMbvpGy!f%jtc.b^bAdliBj^a8e,iBlSs=b^bAdliBlSc8j^jcivafbBoJd)bBoJ&)f9aEe
   9aEf8aFfbaKc.aEeXfYp|b(f5e$2k*d.]$Ey2!*uMaiiBdX]Ol&hw|+aYcab>bHx5+v,e&>.,jJb.~tfuOom~:]Te,cHa&x$
   e,*5]T~Fa&x$e,dD^Jjixsc=bbaYdXa$vIbDomz**(n7a&x$~F^Jjia&x$f8q;z**(a(x$~FzyxsW:?mj]KcHbybNMb*,Oa(
   a(bm!jbbaYdX$HclHc(Zc9U=|g%i.pK~Yam|)%wi^a,?pa,be~lb.a,acahb.a%H)!af+&bTa.cHlKd[<Va!d&e]*talg4tE
   i^a9j],I&Qd<cb_fbsna;j],I&Qa9i^_eX$jhhbbaYdX<]bx*jeFe*sshnarqwf!m]c(Zc9U=|aYj0!7o5a!:E+v,e&>a$bI
   eBa$hbb$aYahd7bv<]j?bv?Jg]a*fR!fd]$hEe$f=3a!&Bl++cbt]lr%w=]4k0dJa3k0cea3dZfJfy=n$BvsjLwtsu|%vojH
   a^b%eC%r:$wz%^m(.w%ldsa^ao*]k0c*]4d8+:wswubSan^qIknbEjIbSkHe4a^x[B:*bqwWB:!bfn%BzNy)bSbAdKbS)V%q
   +9ugbSumcg]lhp]lfCa3fTa^bNfTbfalpyk0s&a3fDbquKnubEesbfb;e]aqdAe$4mQ)9!;-&B*t,I&QdXa4b!nK-w$%[!;-
   &B*t,Ia,b!nK-,Ia$&B*t,ef(a,,Ia*rJkhasI]N-&B*ti+*<]N+cbt]lr%w=]4k0dJa3k0cea3dZfJfy=n$BvsjLwtsu|%v
   ojHa^b%eC%r:$wz%^m(.w%ldsa^ao*]k0c*]4d8+:wswubSan^qIknbEjIbSkHe4a^x[B:*bqwWB:!bfn%BzNy)bSbAdKbS)
   V%q+9ugbSumcg]lhp]lfCa3fTa^bNfTbfalpyk0s&a3fDbquKnubEesbfb;e]r=axVfPbqe8cQl6h0bT]N-&Bl+qbfBar&Qd
   Xa$vz*t,ef(a,,Ia*rJe]gDOe$5lr.&mXOc<b0BdKcYddd8d1bEh7cxdZe+kAkVa2bnZg1bCgEfTeCcEc^a2a^bSaxrhb3bq
   EIb3bfObfwl^9c(a2j$a2*lbqbfIbfVt!cxNoCHe~gN&S<=e$lD3m])!b0kasqka,Q~4pTw*$mw>p4hj?]ny?Hr)a2fcq:ny
   ktfc>=j4p+nyt9q2:Nsqsep^ktkthjktn8+Ksq*3?Ya2u~tTzap+)Cg1e^axe1cgax;|ax:4pwbS,wc|axOaxslbfc0bSuKs
   j%Cb=k.bqIa*bR%9n>afSc(xe$mpc$m~4)Rktj4ka;qj4?]>mktfc)Rktj4|It9q2q:&XeDq2)ReDznr)p^kap^p4Pl0mEka
   p^mEp4sew*:NdVbsa]znseznhjsevYkavYxevYp4eD;GeDw*dKadkthjn8,K,K;qc3y,)ReDznp+sqw>|Iw>$Te1$Tcgax$T
   bq$b:4$bpw$bbq(Va^(Vnmk[k*<]addzbDbve*r9b.dXa3rNa3dP]h]i(Ia3nra3rna3lpa3bRRbba3^Va3t5(I*nbOckaca
   3E$(a3o<.&mXOc<b0B:$bqJ=nbfl2=9e~bSa[Na2bha2zHa2xza2.qa2g*=Tb3xzb3.qb3Ma2ata2jda2xzNa*e6b0Pd%ev%
   PePGg1LHeCYa*e6b0GePGWdZWe~axu<d!JKkIb*cJ]:opGe|XGc^We+lIe+ZGe+Pe+Z]:c^Z]:e+Z)*lIPe+P]:e+ZWe+lIZ
   bEe+c^dKc^Pd8e+Ze+Gc^Zc^WZr2c^GdKDdKZd1Nc^lIc^]:+e]:e+lIZGdKGkVe$eK**!;+ce]bj.abjTb~NbjfI<([in&H
   q,bjlybNjGbjala8b,$Smeb%ZbQH)!:Yi*pTa2?]q2:Na2ktn8+K?Ya2u~tTzap+,U$qbta3xea3pca3fca3r)a3sea3eDa3
   n8z6kra3zSa3u~a3a]bs*np+a3t9+K_UooOallf.lcee7n~ct!Ne$8fLa*gJ_i.n0hclBa[f^ala2&,fDg$[[=caY|kc^bLr
   2(.qOe8,pwRcfvRcXm(g4Cd,ddaaowd,+JjEpEqYg2Basoq](awcEa|r2gRYc^jf%BaxacahPuqaxq&ObBCaxa|hLC$.djao
   VaYoqbbl(LFoq;s$kgJ_&VdZaaqHr$hcc^(ff6dZgDO)Z<Rm,zya5j,a5o5a5yNa5t%a5rKa5b!!]a5>[ezlPNaZ.cc,$jcD
   nAj,_nEn0;CkLa8gpqN)!:Yi*pTa2?]q2:Na2ktn8+K?Ya2u~tTzap+,U$qbta3xea3pca3fca3r)a3sea3eDa3n8z6kra3z
   Sa3u~a3a]bs*np+a3t9ooOallf.lpGcXKb~ogb=IqN)!_n8_Ua!rkaladcab>bHf!$kgJ_i.n0hclBa[f^ala2&,fDg$[[=c
   aY|kc^bLr2(.qOe8,pwRcfvRcXm(g4Cd,ddaaowd,+JjEpEqYg2Basl(u=cJ%i|w%i&(aifWaXd0oie;wicJPRdwb3ecacbv
   a2aic%oqbbcEbdYcEas.O~)cEkk]ea2b]cJc.cYarbun0alLaehAr2gRYc^jf%BaxacahPuqaxq&ObBCaxa|hLCjIcV!!o5v
   7mzn0yNa8nEn0t%<]bx*jeF&=rwadUabl%hnBh$x~iCabbCa>aubNLa>bIl%JbLeLJcjl%nHlubba>b!P(zvD(NbwOvDa>dz
   l<vDa>=ic%vD$pHGa*aZG%IVa!vvaibQc+fWci*vc,$kvz*tl*|1(pfy$BjLsuvoa^b%c^wzm(bStOaod1+:axiB^qIknbEj
   IbSbzx[wWn%(!)V%q+9ugbSe1%Cslh%bNfTbfalpyfDm%bquKnu$p.BcDcXb*alIc|a*auAvua*abU!NAa*adg4Aa*Aabsha
   ab.shaaaoa*Ua[a*djgdr+ana*rgcIAa*a[eBa*OatshcIIbNooabbriBooabas[ka*r$a[xtadbIxtaeAxtaa[kooYbB[kx
   tbhU|Ha*gPb,a*gPb,lueJUoobhs(cfasshgPcObriBa*lueJshlueJgMa[oobBUo?Ib,ooUb,dPa*dAdjUooasbLAooObdO
   d.kNwYUd.%Xg*shb%icUd.nTd.aw[xc2dnshbeb%a*anh$vWa[i~.Ga*dzec[xbG$*gZAdnawOgZAbrshi[abaZUgZ<1gMas
   UgZlGbBUgZlG[xBbhUqNUabc)anqNUIai[xj5b|z0UqNbBada*bOvJbDabUgZdjOgZfnfpqNaZgMUgZaceBa*g4!KIa*c7!L
   a*fQ[xBasgMOqNa[a*b5ana*c9asshc9a[]XlGUb,]XbhshbIHbGl6abgdUl6vdYa[l6lGbBa[l6IbNl6IbNi[abshbVd=a*
   bVGbra[a*bVcfasshcgAana*cgabshhpada*!Vz*shbNb9a*tM[ka*h$blbBshalg9a*RawdiacxubriB<]bx*jeF&=_c9bB
   fuOaEdPaEe=aEg=aEc]aEgpaEdxaEdYaEf>aEr*aEhc=$z?aEukbWaEhy)Sc])S=a)Sx2aEb!;laEl3)Sr*)Sj,z=dPz=e=z
   =g=z=c]$pHiba*c2a*nHa*eba*(,gZCsoMc^dFarcEblara*Ish.BcDcXb*bOx^bUSYdQsibDc5fCbjbVd+IajasPasf(gZA
   bt[uvNd7.+bt]Xa*cIooBl6Ba*nnajaYooc;gZFi~F.+cmcxl6GooGqNZa*d:Zl6HZa*iPZa*a]Z.+e*l6LsoLooLlLMi~M.
   +bpl6MajMooMl6Mh,ar.,Ma+Ma+KMl6MbYblar.,Ma+Ma+KMl6h=afhrdFargZAooibl6ibxtiba*b9D~BafhrdFargZSi~v
   Ng9afl6SgZVi~V.+okl6VooVl6V_bVd=gZWi~W.+agl6WooWl6W_bVd=ooce*;a+Ma*cXa*BQajCajDajh=e]GajOsoBxtYa
   *bGqNPa*aaooKooMh<ooTa*LMa*LNa*oOa*LXl6Bd*l6cia*e(La*cvgZMgZPMgZRd.Rd.VxuBa*Vh=bpa,A<]bx*jeF&=_c
   2kgdPaEe=aEg=aEc]aEgpaEdxaEdYaEf>aEr*aEhc=$z?aEukbWaEhy)Sc])S=a)Sx2aEb!;laEl3)Sr*)Sj,z=dPz=e=z=g
   =z=c]z=gpz=dxz=dYz=f>z=r*aEo5aEo5-zB!Wb**9cLnlcRa!bOXdNeJiYwai3alAvebOcktZkEdfveEabjWbaF(ncjdObt
   b$$!c7Gxzb.k.gOFcj_c<d]m:c|aib.+JF,kcJ$!$&m:c9L%3c*diE!~k0geMb.d1$+b.dKEccaxbbb>z(d]dde;bm.ccxal
   tEpZb!Sm)lBbebbm:aca]Ub%dnMa2c<<:b.fDas,gk3$!=iey.S,:;s+J(zPqYe|aicU^3cx=Qm(e?aiTcUauabcJjeex<hd
   zCo!axf?tEbDMb.cYgO+4ScxaltEPalb5qH?Z$!fWnvrmagh3fm,jcU+0<hFd(o!axhw^ha2jealbrcxaltEc=WaZdKb,f?b
   |d8cbaccUf1wab*[t$!FcXcim:bd!2e~Bvrg8]dc+bJow.Xu=dnaxaau=dnaxgcgk^3cEatb.pYbV;~d=!~b.c*diE!~dKl|
   cUbMcda2bd](m)a2f7agEd]oqcQd(bvtTi3AcjDfZa8abOcCcUa]mm]pdf+%aod]bpm7bDlObebW+(pBtTb*<;gAcUbIf5ac
   b3BdW?Zf7agb>aZaZfwawaXag%Va8h5Y><wvaxbaSd?m)a2vvaif(a2xzaZc*h$jWb;byalb5qH?ZgjahuujUbva3c7c<alh
   Of0u7a!mZ;SaioCbnbqkda2ztt1Iax(%b3Tb3bna^aufktLxhz.e~cJtLbSbdd0bn.UbfxWe|yvBbqBkde|ztBt1p<axp<df
   e|bre|*0Bgnaue|rRj5bSj5tfbAcJbAbnbAa2bAPnxbnBaxc7Pe|rrj5bnB|.bMe|o)*1e|r,BsmBYe|lce|w;Bi1dKaidKy
   vP:*kddKt1nqaxnqdfdKbrdK*0Pe4audKrRuFbSuFtfc=cJc=bnP.vbddKrruFbnP:!bMdKo)PbBdKr,PsmPYdKlcdKw;Pi1
   e|xWe|p<bnrebqrekd~Aztret1Bp<$,p<dfe|&ve|i[bnregnBau~ArRBj5bSBj5bde|bAcJBbAbnBbAe|bAPe|c7bnre$,c
   7Pe|j5cJBj5bnrebfrebM~Ao)rebB~Ar,resmreY~AlcbExWbEp<hNp<^okd^ofqhNp<jIp<dfbE&vbEi[hNBf,BaubEbA<I
   bAhNbAbEbAP^ogMbEj5hNj5^obMbE*1hN*1^oY<IBYhNBvRBlc^oi1hNBi1~&aie+nKlAMbq*;kd~&fqlAnKy)nKdfe+bI)*
   bIlAhx*;aue+g9OlAg9bSHg9bde+e()*e(lAMbS*;bde+g9)*g9lAMbf*;bM~&bBlAMbB~&YlAMY~&lc~&i1lAMi1cYaicYy
   vM%qkdcYt1nKaxnKdfuTcJbIbn)VaucY~qg9tLg9bSg9bdlBcJe(=l%ktfbV=laxg9cJg9=l+9bMcYo)MbBcYr,MsmMYcYlc
   ddaif^bnbRf^Pddbrdd*0FnSaua2c<bnFbSFbdddrrFxiFbfFbMddo)FbBddr,FsmFYddlcesaiesyvVbqh6PesztVt1h6ax
   h6dfesbres*0VfPaua2cQcJcQbnVbSVtfbWbnbWPesrrVxiVbfVbMeso)VbBesr,VsmvPeslcesw;Vi1d8ai*]bnba*]P*]%
   4baaxbadfd8brvXbnDdsaud8rRhwbSbT%Lbnan%LP]dbnD.XPd8rrhwbnrfDbMd8o)DbBd1aiuSbnaouSPuS%4aoaxaodfa2
   bDcJbDbnTd5aud1~qTrRpEbSpEbdd1rpiBbnTbSnr*^bnTaxbxPd1rrpEbnT+:bMd1o)TbB.3aid8babnDbad8baPd8ba%4D
   bawsbadf.3brd8c2bncBg;au.3rRcBxhcBz.d8bTd8anbnDand8anPd8bebncBwsbeP.3rrcBxicBbfcBbM.3o)cBbBbEDai
   bEbahNbabEbaPbEbaEhNbajIDbrbEc2hNDf,wTbEbTbEanhNanbEanPbEbehNDjIbePbEDgMbEhwhNhwbEDbMbEDbBhNDbB~
   (ai~(IlANbqHNkd~(ztHNfqlANIy)N(%~(bre+d7lAlxHNau~(iQlANxhHdz)*dzlANbde+gQlANy)Ndf~(gMbEai.ohNxak
   dbEfqhNIjI(%%ghNf,aubEiQhNiQknbdbEgD.phN!Tbd(ihNjIdfbEgMknhNUbEbMbEbBhNbBe+kUe+c+lA*?HrEe+c+ElAc
   +y)c+dfe+b()*b(lAuDH,ie+d(OlAd(bSHd(bde+b8lAb8e++(e+aXlAaXe+aXPe+d()*d(lA[qHLbMe+LbBlALbBe+eq)*e
   qlAeqe+eqPe+eqRlAeqRh7aia2c+bn*?rEa2c+;~c+%4c+axc+dfg2cJb(bnuD,i.4rpd(tLd(bSd(tfb8cJb8bnb8(HPnwb
   naXnwP.4cJd(bn[qLbMh7o)LbBa2eqcJeqbneqa2eqPa2eqRbneqRcxaicxyvG=nkdcxztGt1r!axr!dfcxbrcx*0l4aucx~
   qGrRlubSlubdcxrpmUbnG|%bdcx;~vIbnGwtdfcxrrlubnGvsbMcxo)GbBdZaiqj|6bqgPPdZt1gPaxgPdfdZbrl)|6fyaud
   ZrRvJbSvJbddZrprk|6(ptfdAcJdA|6axdAPdZrrvJ|6jLbMdZo)wY|]aicxr!bnh4bqh4t1h4Iaxh4(%|]brcxd=bnh4fJG
   au|]~qh4rRh4xhh4z.cxmUcJh4tLh4bSh4bdcxvIcJh4%4h4axh4dfcxlucJh4xih4bfh4bM|]o)h4bBcYGt1Mr!ugGbrcYd
   ==lGmcGaucYGrRMlu%klubdcYmUcJMmU=lG%kGbdcYvI=lGugGdfcYlucJMlu=lG+9GbMcYGo)MGbB+eaie+julAXbqHjuP+
   ezt<%fqlAjuy)judf+ebr+eAlAXa^<%au+eiQ)*XiQlAXxh<%z.+erp<%OlAXbS<%bd+eElAXy)Xdft!fqhNr!axcW(%t!br
   bEd=hNGr8aubElugDt!iQhNGiQt!gDbEmUhNmUt!bdt!EhN<$cWdfa2coe+t1fpaxbGcJbGbnbz%6e+iQ)*iQlAxh!Ntfc9c
   Jc9lAbSHtfbOlAaxbOPfD|;c|bnWm%aufDrRWxhWz.fDtLWbSWtfc0bnuKc0PeCaieCyvZbqZkdeCt1ZI%^(%eCbreC*0ZjH
   aueCrRZxhZz.eCrpZtLZ.wbdeC%4Z%^dfeCrrZxiZ:$bMeCo)ZbBeCr,ZsmZYeClceCw;Zi1cEaicEyvC:)kdcEIcfcEt1wR
   pN(%cEbrcE*0Cg[aucErRCxhCz.cEgDcEtLC+2bdcE%4CpNdfcEgMcExiCbfCbMcEo)mScEYTcEsmCYcElccEw;Ci1&9ai&9
   yvlIbqlIkd&9ztlIt1lIIaxlI(%&9breCgBbnlIjH*K&9tLlIbSlIbdeCo?bnlIaxlIdf&9xilIbflIbM&9o)lIbB&9r,lIs
   mlIY&9lc&9w;lIi1%hai%hI)UxaZkd%hfq)UIjIZ(%%hbrbEgB)Uf,*K%hiQ)UiQ%hO)UbdbEo?)UjIZU)UU%hbM%hbB)UbB
   %hYT%hY)UvRZlc%hi1)Ui1c^aia2hfb%.0P.0%4b%axb%dfc^brs:bnSf2auc^rReBbSeBbdc^rpStLSvobdl(bnSaxb!Pc^
   rreBbnSwzbMc^o)SbBc^r,SsmSYc^lcc^w;Si1%Maic^hfSb%c^b%Pc^b%%4Sb%m(b%df%Mbr%M*0b|n.au%Mrpb|tLb|bSb
   |bdc^b!bnb|m(b!P%Mrrb|xib|bfb|bM%Mr,b|smb|m:b|lc%Mw;b|i1eCbGcJ*LbnZbziRau~2rRiRxhiRz.eCc9cJZc9bn
   iRbSiRbdeCbOcJrvbniRaxrvP~2rriRxiiRbfiRbM~2o)iRbB~2r,iRsmiRY~2lc~2w;iRi1or|;ihbnbCj!auor~qbCrRbC
   xhbCz.orrpbCtLbCbSbCtfh:cJh:bnbC^QdforxibCbfbCbMoro)bCbBorr,bCsmbCm:bClcorw;bCi1fTb9=mzxh$tLRh$b
   SRb,cJRb,=mb,fTuifTalcJRal=malfT.NfTh$cJRh$=mRbfRtMfTRo)RRbBfTgAcJRgA=mgAfT>ifTgAR=mgARbEb9<Ib9h
   NRf,]*bEb,hNb,bEuibEjebEalhNalbE.NbERgMbEh$hNh$bEtMbERbBhNRbBbEgA<IgAhNgAbE>ibEgARhNgARgEbrgE*0b
   )iJaugErRb)xhb)z.gErpb)tLb)bSb)bdgE;~b)%4b).WdfgErrb)xib)=jbMgEo)b)bBgEr,b)smb)YgElcgEw;b)i1*[cJ
   b9bnzxaufTrRh$bSh$bdpycJb,bnb,pyPoqbnaloqPfTrrh$=mbftMfTo)RbBfTr,gAbngAfTlcfTw;gARkAaikAyvJbqJkd
   kAztJt1l]axl]dfkA~qJrRogbSogtfh5cJh5bnJbSJbdkArrogbnJbfJbMkAo)JbBkAr,JsmJYkAlckAw;Ji1kVaikVyvQbq
   QkdkVztQt1QI.T(%a2bcrpbctLbcbSbcbdkVrpQtLQbSQtfbccJbcbnbckVbMkVo)QbBkVr,QsmQYkVlckVw;Qi1?CaikAl]
   bnywbqywkd?Cztywt1Jl]axJl]df?CrRJogbSJogbdkAh5cJJh5bnywbSywbdkAogcJJogbnywbfywbM?Co)ywbB?Cr,ywsm
   ywY?Clcy4aibEl]hNl]y4kdbEl]cfy4fqhNl]jIl]dfy4iQhNJiQy4gDbEh5hNh5y4bdbEoghNogy4bMy4bBhNJbBy4YTy4Y
   hNJvRJlcy4i1hNJi1++aibEmZhNmZ++kdbEmZcf++fqhNmZjImZdfbEhpOhNhp!ThpbdbEfC<IfChNfC++bd++gMbEhphNhp
   ++bMopaia2jubnXbqjuPopztXt1juaxjudfoprRXxhXrpXtLXbSXbdopr,XsmXm:Xlcopw;Xi1k.aik.yvxlYkdk.ztYt1mZ
   axmZdfa2hprphptLhpbShptffCcJfCbnslYtfhpcJhpbn%CYbMk.o)YbBk.r,YsmYYk.lck.w;Yi1hO2h[8a*b9bac;%DrpL
   $Bai++kdcElcc^b%|]bdcxdfcYbq<%aia2eqRe|j5cJMbdk..vrr<%xhbDcJGjHbMcEr,cBbBe|bB|]iQ++bdd1bfbdkAogc
   JZrpPr,*;bSYaiesbBgEm:bWPeCfO!TZbM?CYcxrpJl].UbSrfb)bBa2c+pNYcEz.cEkd+ebdgEbreCbBgEbdoraxlIIcfbE
   p<axdAhOlqhaa!c+eBb0Be4e4bzDl.fJfyjmJg[j!&4&.|mmcf,=2f2~xr8=3X^4bzFm%iJu[Gbze^axaxb=a2bqbSbf]5UH
   e~wudGMcg(=crAbyq,cgbYw(bAa>>3Jb=tuuuhxFoZ(BkNwmnIdJaxgX.2ax|Fc0acdKl2B^zc7ugc7sug4ugGc7wtc7axhn
   axbWaxbxaxf7wsbOwsH^zaXaxal.XjIbeaxb!.Wl2Zl2rvaxj*axe7jIe7axc3axdAaxcWGl2Gl2bVaxgQjIc3axbqaae+bq
   HaafDbqWaadKbqBx[B%qB$BP%qnnbqnnbqbResbqaotTbqDx[DtIbq*?bN*]bEba.0gEbqZbqiR:)bql]y4bqxlgP=T=nbqn
   KbExaxla^adt!wlbz,dfDm%^=gnkHmcBfyPfyPadcYnnfJBnSfPlXbzDHbzuDRdsf,Df2iJjHjHbzCfOf,Ju[Kfyad=TfJmc
   f,)Mz!sc*abSnubSnua[a2c=bSBc9bSbA%kbA(pc=%kGbA|%bAbSc<bScQbSiBbSiubSDc9bSDHc9bSb8bSb,bSan!Tanvoz
   !b)z!Zz!Zc9+2z!Jg$bEh5bSfC(pg$=Tz!mUbSe(!Tg$bEfCbSbfbLe+bfHbLfDbfWbLdK|.wWB+9BjLP+9nnbfnnbfFbfV+
   :bfa]|0wWDtIbf[qRbfhwbErfS=j:$bfiRbfCbfogy4bfYjLU=Tvsbfg9knbE%CbSa[t!a[e+bSHa[fDbSWa[dKbSB(!bAcY
   bAdZP%kGbAcxbAcxBa[ddbSV%lbSa]bSD(!DtIbSb8py%LbEanc^bSb).wbSiR+2bSh5y4bSslrk=T|%bSe(bE!Tslaxact!
   ace+y)acfD.UacdK$,n%BugBsuPsu%;cYnnaxnnaxnnacddaxe8T.Vwsn%DHn%aXoqd8jIDm(.W%^axiRpNaxJjIJaxpwKax
   cW<$cWGaccxwtaccYjIjIpwcW;?^:y2!**Yd.r.nIcDanaXcmaqk+Sg$$JcmgXGa2dAj$d1b.bEkSBc(ddAa^bDdsc(%Ljdd
   Zhgd1jd%L-bSJjdkKd.r.nIcDanaXbpaqanhO2da0d!)tmCZc%Lcgf]kcEb8f]j[kcEhdnof]D<4Vf]r(dieF_gdhd%1c)_v
   8hd!Sg%z0,>z0m9,+g:[2Ybrhdj[hphd[2Ahd,Z)hYcC>vnINDar,>[2,ZyZg:rtf]j[,roBqq~DbeoBqq~De;oBqq~Dc%hd
   r(y|jice,>g>y|ji,>cH|:y|jihBa+tXMn]y|ji>0n5yblTVZbVcJhcbpci:2pDa4i8a4lVczb(Va[bu(xrZ>0n5)tb0gduj
   hLvSb+bUYjKH=VkBaZ|3:cc,a8vga^|NKe4eyaZcNd!yblT|NcIgZeyaZcNbZDc0f]kcc0f]iRc0f]Ch:f]kco?f]bx.Ze!g
   :^if]j6c0f]j6b!f]Th:f]Hc0uRqqHc0f]cHce,>p>aroB$zCyblTH=Va9S:c>0n5)tb0?r[2clBcXbgb0fya^jLbfl2alax
   bDax!TxlbqLe4a^bNbqbNl2aXEl2bVEl2bDf,c2f,pAc%cYc^ntM=jkSb%gEb=bnb!xiKc3sucfknAjIUbEogAaxfCQgEbfh
   pQa2e1Nb)fyb=bnPb=hNe7jIbxaxuF.U]5g4axhnaxRbf[qnKbEbqalxib9suact!Kc|ac=Tr8iJbSuFA$.bfFatfDf,a^*?
   Pbqb8QdZ%kBacfTaccYaccYa^aodZ%q%ki[a^bxcJKPd5acbETntScXBnSn$bIaxrkVUjLdiHat^eb.dXe]OQNDa[d%gdWnT
   Si~pAc%c+!**wy2=r*YhOs]h^$zbCd;b!%wskbyb.a?,ya>skkDc(a?,ya>sk_bca?,ya>ske2Ua?,yd0e[+):p$9]1eba5f
   |a5*Aa5bma5p?+)bma4p?+):purfY-bbc%a6f|a6*Aa6bma6p?+)bma5p?+)f|a5f|a5*Aa5bma5p?+)bma3d|d&d)pQa8)A
   a2>O*5_eUa2u&kocSa9cPtUy]a:tva5bmr2allzh9f|x!a?bm?cg)lciB!6:,hdg)lciB!6btaahdHj$f]TZf]Talb%Lb8f]
   CUbrbNLb8f]CUbrbNLb8em=ChBwAcmhrbZn$f]AOf]nHf]ckf]ckaz)Ag:eyf]j[Csvg:Km?>vKazobeSoAK)eb>eSwwbZ%1
   <5e*hdyyf|gIg:ohfBkIb*>^kbohzRe3g$f]P)e^3_yfkbPazlFbBi|e3Po&bcbhalLx8g:Q)e^3_yfkbQazobgIg:R,~TbL
   c2,>m8hdVazobgIg:vPf]%BaeOa]bueNhda]j&?Pa]j&)e^3_yfkbd3Df]cff]c5f]sbuR$zcC,ADbgfsbgd<bgcrbgjGbga
   +[%i7Tbga8bgbZ)vithd)vcmhd)vdBa:z,e3puLhd)ve2hd)vafhd)vc*oB$zbmbY;(cEjsgEasb$txpxh<imaYfUb8f]puH
   i7yyv4c8boe;Tn>afaaOt<g%bTbZN(^e3CazebhBj;%T~Wa;HbZBazlFbBi|e3F?PcQ,igdbtEhdcQ,igdceEhdcQ,igd_uH
   hdGaz%:+DEgI[>K[>N[>R:Xm6img:jqe!a8j[w4b+w5Gfsaz%zT.9h<vSwA%DbZpuKh*a8J:].RmAqQbU:6f]v8f]Um?&7u)
   bthdGr?g%IhdGr?g%Uhdk^hh=tcee3c(,kl+aghdC*~%T~Wa9Sapa9Z*~%TaYhWo&csTkIb*>^j3a0m6imj3hO2iy0bZ,Z)v
   dBhBhO2iy3a8i+a]j&hO2iy5]wrtNbZrnafCgDSafhBa+m6imaee(f5oBhOnFtD$zm6bYjcm<?cj[fRojhBa*dfaeeFbuime
   W$Ib4I$zm6ojoIaxb;&5cecliH|||CMa*dfaeeF|=j[Fota8kJMa8tKfBaq&TbpczYb8aocDdNbNb0aq%rb[it%Be%a^tXbj
   b+vob[wbSe5a^tXKb~d:b~Gb~iPvo(riwa^tXCb~bCb~Jb~JtJecb~T.DDana8cBtJTb~.DanhWtJ[vPb~cvb~bAdLHq,b~b
   ,<tjGb,d)b~(!f:bta>dke)eLz!c=cfgAdXbid<cbc6d<cbe&d<cbe.c^(rxAbG*GbD~k:Da!k>?Jcm!5k%a>fRa8$Z%?dP?
   qa]a>l3l7g=?qova2k%dXa3Pb(j*c9[sa3tMrga3bce5*v~kf32ezbGGSgiAwwjmGa^nDf,YlX&?lmmc&.|m&4m%~xa^umu[
   k:iJ?Gl*|1bSQ$$nSfJGa^rg):rT)?aqcgePecl,g;f,lxxAe1w$[ab|afbzw$bQbzdnnqb9fr%5):rTb0b9a,Sjf|$arePC
   )cd.+&eddXa,cHz4pLD<nhOfVf&cznHb9b)z++Ey[)E;ispl2p;|&,F,DkezJwbabUu*;3kCizq~b~g$t;>tg[)chOfLky$s
   kKhOfLfL)9be,udNabtKggthn0tXaqbjk+;;lyV%rb[btVw,bGuN,udN*rc,$hn5wBC)c_twa4cHcE)c_igk!yFbzPl|nqcI
   xtau!f%9ajabcfa*edyX:^doh;a*pAzEatePeya+f:a!cIcgH_c+*Mthn0tXk++X=A^Mn4Z;Ki:Hi:;;x*gwD>wlyfgl^sip
   JfIVzLaqaq<AbUz!eH_w^^^iz%ldGPb8cvbjc;cgotb8cvwzb[bYxkb)cg<ZJc(ww>]$K&?gnmcg[fO)MSa^k:u[,wbzMBr8
   Gf,Df,YJe^ncjK^bb^bjb=tUAzJzfcrjG%Pa*tw~kf=9:0m])!pGO=J_)gr)a2pc;G)gktpcw*ny?Hhj?Hp4j4hjp4j4r)a2
   fcq:nyhjsenyKv=senyktfcw*nyu~&Xka&Xp4r)-eDp^eDdVbsa]p^u~p^w>~n;G&Ufca2&Uw>hj*3-w>hja]zap+-t9,U;q
   hj|It9hOqFhaa!Jck(Yc,byad,yGg[ECgkg2YabfDb[glePa^tKcIxka2oaibbYi<KbEd=amr6a>b9Sc|baspp;bSk+Sdngk
   d<%ffJkj%fa^m.kj%ffOf,cgbp%ffOAer;af,m!i:bI;ag;=?;a*pbp%fd5kj%fds=?;a&?kj%fgnkj%fa^mKlydNhgh7m%f
   2AbpbBu>bI;aaqqOepbYECgkvTd(g+c*abhgd%OfBj8cje)bVc+Kd)gde)Mg,gMd%aYb.<uRd=bpidfxdfcfzJe]aZcffxj$
   KaYfmgkb9gZc(Ka[r1RaZach4ad]]gZc)Ac8auuTDe1d(HbBfDaarfPc(Kbrh7b.S=2hgb%b3beGb^beGdKx^aXHa,z,hOdI
   o;gZc(Rc(dAPkKhOdIu;gZc)hKaoRbDc*UbVbxxgc5ac-c5acgxgl<;im,ddBfIp!J+nNhCbGepkDadaf%0]ZimHlff$bMLz
   bePbDtKb(b.cDw(Fdcd=gFy5JdcJbGjwc2a>cBbGh)d7a*bDtKb(cUgg~sd;ePbDtKb(cUke<zjwbGgmx0bGhOf=qEwccX=O
   |1p;(po6cW]5cWj!j!bzJoX!NjIfdHJlXdsfdUjIg;e4e4Pngg9uggnBu[t8n.k]bGmGaqjXbUEjK<AO+5AbjuHzJ_~P>.f=
   m4ePe6e]fwlMa,Cv6ePe6pGd%crfxsr%=a8b|zJkZbp<xhOf&bXkKhOf&h[tum>bhaYd8q[<na3tsgxgl<;ww~gdBzL*|Jwp
   +nfg[I;kfI&ylbsffIHfI%5]Zww~g_f$bMLzb+f~g<Qaqxmb9a*oO$Pe]~gceeym<N%PM$Jbtaia[dJ,Ba8h8e=ePAaik3b9
   epzdctuCacc*gGbDtKb(b.x!c6)Tegn>kDWb*P!zhgpGdc.b*OtKh6cfb0bme]Oq>e]c9)kd:c9q>dBOq>cDmUq>bYOq>pGO
   q>l8q>cDfC)kanq>hF)kiuq>mk)kbAq>hhq>byc9)kc<q>w~)kfC)kb,)kb8)kcQ)kc9q>cenQuT<2c(a2eHbtaqbUw^bjb+
   bS$5e]coa2eHvSaquHaqUaqnHb+eya8adb^Md1dG$5dJKh)Uj$a>iuhrjdhOgbjQc^cye]a[crUj$d)cXa8c9_c9bUrk<2OI
   (CEbxIerc3Kb0b+b~p!Nfg[I;k+nlbn4b|a^f:vSdk(8n$dkAe)n$bfh:Id:adb3Hc(_d:Uqda2adJ%rr.%2.NcfuadXa4Wt
   ^a2f:okc5eR$UozhOgbwQm$*mbdbuwmnIc*a]+:a]bqTqTd5f7wua]wuiu~keK5.3wWcBx[cBbGg;^zcBn%cBc9hOgbq|d8Z
   bfkcbqDgB&4l2kcaxkcOhOh]eacEbCbzCbCwWCbCx[CbCbGg[bCbOpNbCn%CbCc9hOh]kz~AgnBbfrebqBi[gnc7axre$,bA
   hOh]kM,A>Q_(ThKmHlYbCsidDtXEa9>Qa8pslFbBi|a8wiIb4Fd)xXG:].RmAfsazkJb(Z];aEcHq+?=mWicd<:].RmAa:Na
   :j$a8dDtXOaEgSgIa;foa8kJ<ApuOEm?aLdua>ctfo-OaKgSkIb+z(RtMe2wAe2azc.y&i7Rap:OdTaXrze2jG:].RmAa;cH
   d)xXRaEgSx3dL&ut|i]*co&csb$c.y&aCeb*c*=z,*cwoe!qQdkj]bmnNicaKf8afvboDazbmnNicaEfBfYy&aQ*jdebmnNi
   caQ*jo&vbkBo&csb$c.y&v1boalbWaz;6n>d*ojj$fsazkJb(Z];aEmW:mUwoe!pxd*imgkbGkhbra8[2b+foceb+Ub~kJrW
   (F||_v8,AkcvU=Ia<j6qi*DmWk&v1+cc*rMag<k^ma3c.hOh]k*wcaZcNrgm0aqb+.xbjVfwaqk+G.ebUGb~G+;Va8fIn&<(
   tJ[i&~fsaqaXfsbUb8fsbjLVd<kjsym+q,bjlbHlbd7HcroybU[vNqaV]naqbcb+bcbUbcb~bcbjbcVd).QtVa8.ab~S|3Vh
   Waqi:vETb+DbUaoa8anhWbjDVhWl^Tl^<Gd%<9Tb8d%Lbjw]Vd%sf,rd%b%d%Sb~j6bjj6uJaq!^xk<MWbjWVa8cg(CEbxIe
   rc3KwwcNd)cXwgm+aifxaqlbbCcia8fUevc9bjcWObjiubjc|bU,y%Pgda8bLa8bUPh;b^aofgGcNa8Jh;*d(qwpci<uLfwc
   9bjDc9w|h;evcN_cnSbga9b(*=Maia9iba9d7a9fUa9cWdQa9bqf:<Raua>aaaua>adaua>Yacauhrm7aua>bLaua>h:aaau
   h)hga2h:lGbObqLbgvSc3Ka3aubLhO4j|;h^*h^kzm])!rwhg=Jce-:4qLqLbq$Ta^$TAax$T;|<J:4<JuAbq$bAax$bbS^j
   a^^j;|^jax^jbSuAcg-bSuAcgaxuA:4uApwuAqLbquAsluA%CuAbq(V[Oa^(V[OE^*h^u5a*Jjd=JcDjh-fc$mzSsqp4hjpc
   ;Gpc;G)gkt)gmEkaa2pcw*a2)gzSa2pc>=j4hj?Hka-w>hjj4u~nyr)-w>fc>m?]>mp+nyc3y,ny|It9-t9znfc&Xxe&Xhjx
   esqr)q2>meDq2w*p^p4Pl0j4p+p^r)sqsep^mEp4sew*p^zSvYr)vYKv=sesqmEkasqmEp4eD)RkteDw*vYzSa2eD>=mEt9d
   KadeDq:dKadmEKv=se,K-r),K-t9+Kq:+K-hjsesq*3a2p+;qp+dVbsa]dCn!dapxd*&5cmFj9jcLjcbRjcFLa8fBafc*a8b
   bdCn!raa!$&~Rd*&5bpacmko=vGa>aabUbWWmkWd<(WXrhdCn!u:a!bOgcWb0q7azfpbNQa*+Gb$ogbeOlYPadi|_e%IcIa*
   xdkhf5vq_fCi0q7zd(gePaYahd7ve)JfD~Ef;%Qr6a8n&rG?ua8e6_q^a8ubwhVa2aYahd7vexFgEaaapkDzEbTa?Saaa?=v
   i]c8kDaaaLSaab3b]azibbDjT!UbIj6iCau<*nx]0=vi]a4r!s5a4c2aXcJbOazMau<*esckaz=vi]a4Z)J+ZfV2a4|>a4q7
   a4e6_rGa5a4b(dv+ZfV8a4q^+ZfL0a4!Ra4ptvp+ZfL3a4e6byEa5+ZfL6a4,0baa4Qf1a4uba4b)aaa4.mesckazc9i2nx]
   0b9hna4rGa4g4a*xd:,]Bdva!o7b0f;agdnb(_[J(Oa3c7rhkvg4Hkvc7?RTbx?Rbx?RT$CkvbWHkvg4?RDenkvNenkvT~fk
   vTh:?R!JeM&Lc2eM&LDcj&LcBg%f<h&a3e7H&LRwn&LdA?Rd=FkvlurhkvcWOrhkvp.dBHbLd7gY(Oa3Rp.kv^~en;1^)a9m
   Ug%f<(Oa?fHa?i6a9anA?$bV.d(Oa?fHa?joenfzal.d(Oa?j]mr;1aRe6$J_d|?L)Dnd:k)Dp2:ke9a>+olkfMaK)Dt*hE:
   ke9a3i+oVa2nd=YzOf9aEe9fTb.k0geHf9a>)Dc|Sb(f9+ZjR7ePcW_[Jh&k=U&LO.dh&a3hp&Lm9mr;1a4bWh&a3KbhiPd+
   ce.d(Oa9hpgY(Oa3.dh&k=UaybB_cIgBd:e]bhiPd+:,h2z1aR;$xd_yK)aazf;~Zf;kZaRA.daRAb*e6aRks~ZkskZaRU~Z
   UkZaRO.daROb*e6aRhp~ZhpkZaR.daRb*e6aRb*fHa3UaybBe]bhiPd+_yK)aazh?~ZfMaz>uaRfMazh?z1a+tXF^8_engY(
   Oa?fHa?;$xd_yK)ai)gYaSdSaSdbaSh?aSjk:5?|$C?|f7HlnllkwfiazhlpadS?NqKlnhlpapPrXpasgazhlpa&xrXpa.nh
   l:PgBHa4vC?N*:?N&H?|vKazhlllkwrGazf;aAfiaApii2=!kwi2?|db?|p.?|mglnllkwen?|a]aYo&)^f;a7wna7h?a4b)
   |Baz!3uGaA!:uGaA*8AaA!3aA!:aAS)^f;a3yK)aazwnkZaS+taSdbaSp.aSh?aSjkc7jqwnaA+t=!p.aAkwbxjqwnaA+t=!
   p.aAkwf7jqwnaA+t=!p.aAkwhnjqkwvKswrGazf;aAi2=!kwi2azllkwdbazf;aApap.azwnaA+t=!p.aAkwh?o&)^f;a4yK
   wnaA+t=!p.aAk;ena?)ai)z1aSdSaSqKaSdbaS!,:5ya!,$Cya!,f7jqpafiazhlpadS?NqK?NpPrXpasgazpipa&xrXpa.n
   dSa4gBjqpavC?N*:?N&HrXpavKazhlparGrXi2aApai2ya!,dbrXpap.ya!,mglnllS)^f;a4enyamga?)aox+=d,aS!,c7j
   qll!,bxjqll!,f7jqll!,pPazll!,y0azll!,rGazi2aA:Pi2a6p.aA!,yKll!,b)|Baz*8AaA!3aA!:a3.nh?gYaAjkvCsw
   *:swpPswy0swdSswfiswqKswsgsw&xswy0yawna6pPa6sga6&xa3.n>uaAjkvCsw*:swpPswy0swdSswfiswqKswsgsw&xsw
   y0yawna6pPa6sga6&xa3y0i)z1aApipapPazmga6y0a4.ndba3pPi)+=d,aAoYdSa4y0lnoYdSa4.n:PgB,c~I*8bradkZaF
   f<a!j&:+f%$ta+gso7&5xnfpbIHnsa|n$g1b9ba_a|n$HnsadjTadbGdcadHbga>ad!NbIdcadH.qf2a|a|n$Hnsxyfps&-A
   mbg1xyfp(xlY!zcXa3xyfpMa3xyfpbIa^xyfp(xlY!zbrUagdnlY!z>&bcDbaptafbhb9Hc^a|a|u<nsxyfpagn$mbbOEs&l
   Ya|>&xybGA(xlY!z>&bDi[x|cIs&-bDA!z^6fpbIHbg_a|n$g1$Ci)oxz1,*a?dSi)?FaMdbaCKhldbi)aMdSaMqKa3fioxp
   O?Fa3dSox$0kZaMh?a3pPpOi)z1aAfipOaL>uaAdbpOvaaMfiaLdb?Fa3sgpOpO?Fa?dboxkZa6y0pOvaa?fi$0kZaAdbazq
   KvaaLdb?Fa3&xpOaz>uaAqKoxvaa3.ndbpO?FaMdbaLenkZa4vCi)oxaCdbvaaL>ua4*:oxoxaMenaMh?a4hnjqqKoxvaa3v
   KoxpOkZaM:Pi2pOaMenaMh?a?fii)z1aRe6aAqKoxvaa?dbpO?Fa4dbpOi)aMdbaLenkZa?fipOz1aMllqKi)aMdbdClrkya
   AfiazqKa4^~dbi)aM:Pp.pOaL>uaAfioxvaaL>uaAdb$0aMh?a4enoxoxvaa3c7jqqK$0kZa6$Ci)aMk;qK$0aMk;db$0aMh
   ?a4fiox$0aAdSazh?aDdba7pPazqKa4sgpO$0a7y0apa7&xapa6i2i)aC:PenpOaCfiaCdba7dbapa7vKapa6p.pOa3vKoxp
   Oz1a4i2pOoxa3vCox$0kZa7rGapa3p.i)pOz1a3dbazqK$0kZa3i2i)oxz1a3rGoxoxkZa6i2i)a4p.i)pOa4fipO$0a6dSi
   )a7dbapa6hnjq:Pc7jqdSa3rGoxoxz1a6vCi)a6sgoxa3pPazqK$0kZa6p.i)dClrrac^!z>%Hnsxyd7A$Mjgc^a|hKcCbQA
   b4Kasadbuj)+E[Ja7QaYhKcCbQdna4a|u<a4gkeba4e(h;bIDa4vOcXa4b9,pcja4xybOa4c|Sa|cXa4Sa|f2a|^Uc9nsxyb
   Oagdna|cXkA^UJaYaYdQc9Ua!bNaYy?o7&5boc5npb(H_ab-b9*;lfab-b9bOc%c^blbGl+!Ns&geA!ze^ZgBaghKJa|a!j?
   bvq$cFbiga)+%~),&!).::>!eE0eE1eE2eE3eE4eE5eE6ezq&awf(,*iY]DuubIa?~YaEFoZk1jsa>b!)uosy]a?&Va>~F^J
   jin7a>c.p3^Jjibob9KC|Tdu|qc+eQS$M:D)9xd>Wa3c.a+i+k&fYa9c.a+kGfYa3c.aja[k(cU?Dxd>Wj^%Oa,k&fY%Oa,k
   GfY%Oa+sbk(cUkGaj)tc*aib8>Wa9c.ezq&awf(,*iY_:Eg<bTamc)aZa>c%<Va?(Xbm)BaAWd[a>e,$ta?c.a>e,,MaAc.a
   ?e,z**(aBc.a?e,dD^JjiaBc.a?e,i+eUaBc.aAf8aAc.a?e,*5aAc.aA~FaBgsb!ScXb*bT!l](awf(,*iY]DfYu,aAgsmj
   bQfNlaa$z~laa$Wd[a%cHa!mjbQbm)Ba%z~laa%Wd[a!b;uubIa+~Y!*dCjpea=r*w*Ya+E,Ba*c%<Vr1$t]]r1,Mz5*Zz**
   (]a~tc,a*|Q]Ya*xFqNv;-xDdRhkuwina+hmS$Mh[8a*rN!)a*[5uwd?iIb2w[C:GbrdCjpf&a!o7cmhUbrlf[Ja*bD^ie;a
   z*8brad~H!3Tlf[Ja*mAcmrApBa*!:Tlf[JdCjpn!a,*8Aa3;$!3gYa3;$!:gYa3;$b)|BgYa3;$eBKbLgYa3;$tXmrgYa4~
   IbI!Jf9^)a?mr;1^)a3ksazmr;1^)a3~Imrj^gY^)a3yKmr;1^)aLfHaLjof;&L:5kv$Cbpabj5bDgY(Oa9f<h&k=f7Hkvfi
   kvdSkvqKkvDg%f<h&a3a]g%f<h&a3wn&L+t&LpPkvy0kvsgkv&xkv(gkvgBHkvvCkv*:kv&HkvvKkvrGkvi2kvdbkvp.kv?R
   ks&Lh?gY(Oa3eniok);$xd_i2az~IbI!J;1aRyTe6aLmr;1aRyTe6aRe9~Ze9kZaFf<aFe6|prbz2zAag:gmk-gcgk$hE|pl
   ZjFivW:gdJy]a+$;bv~tuw[5a+d?iIa*|Qa*$w]!r1$t]]]Ya*xFy2qNv;-xD!*d.Ov9kK*w=rdRhkuwhm*Ein*Yb2w[C:Gb
   r%JmC)ra*~Ga*rN!)a*c.u,aj;(a*bm)Ba*?8;b)rr1,Ma*tnd;<c,Ma*k&a*f8q;$ta,gsfRW:g_~Y|[r1*5n7z5a*~Yuub
   Ia*!;q+bTnwavagb~b;bta>dke)eLiaw(Ye)fCh*sh!;-&Bl+qbfBar&QdXa*!;b0aqjKb+b~;2zWbjKy1b~sf.abjb!d)b~
   i:aod%bjT=Nb~lbNbUNqaoyb~fI<([in&tJgwMm+vtsyb~fg(<Yb~lybNjGbjala8b,j8r>a2,I&QdXa4b!nK-,IqN)!!f%9
   nwa~kaa8hjka~=i*-eDcrjhcrjhw*crjh-k~e<pca8hjpca8fca8j4kaa8j4r)a8fcq:a8j4eDa8fcdVbsl7j4p+a8j4t9d<
   iXfxfKa8hjsefxl0eDa8eDa8~na8n8fmkra8hj*3qQrCa8u~a8a]bsl7p+a8t9$Mnk4a8aqjDfgcgb+Eb~E$Ml12]ob~Yb+b
   ~sic|^]E$Mlr0kBb~bjc0b~!^xkhp$Mlr8a8b=kBjXdCoecRjFivW:gbYawuwc=dWa+oWa*?D%1<5fza*YacuwWa[dCoeh[a
   !fRW:g,*b4lwd&a*+ka+i4a+g!a+jMa*dDzya*>P$Mh^9a!m&?M]?dzbDbv]?bCasl(hbg]a2ahmVg]a!%:e7Cb$.N+!c%aw
   pGy!a%dCoef&a!?MbowmnIbojg_hCvx_mfn[_(qdM1_$Dkq_w|iVithCyDitmfjZit(qmh]AdL&*itw|cw7rwhCtk_e7dCoe
   lrdLqerw$DdM5rww|f37e]hC)2e]mfdM7e](qf30e]$D~;e]w|ea0bphCo0bpmff33bp(ql?bp$DoTbpw|iWcDhCn:cDmfq.
   cD(q>+cD$Dcw5cDw|jYbyhCf32bymfx&by(ql>by$Dp,byw|j|%DhC,X%Dmfo1%D(qt&%DO$Mix6dLdM0e2hCrD!edL:C_bN
   dLj.,~dLpWe2w|p*afhClhafmfzgaf(qkYaf$Dcw8afw|cw9c*hCkpc*mft)(=dLk5c*$DdM9c*w|>,aghCf35agmfp[ag(q
   &$agOdCoeiydLmieNhCf34eNE$MlD9dLk6eN$DpVbt2dL)1bt3|t5btw|f31itWmff00itW$D)3cDWhCpXbynMdLdM2byTmf
   f36xn2dLq0xn3dLdM8,~2dL>9ge2|t7_b:mff01%EdCdakzc^cybonZdLp&dLoSdLt(dL+NdL:;dL:DdLdM3dLdM4dLf39|t
   2|t3|t6|t9dCdapna2g0eJ|7bXbpadilc$ag%]ilcR(?aZilcwdJbcf5ilcwFbpabmf1cwMcaa|hAildMFdJWmf1dMM_eJil
   f3Fr<-mUbrilf3Mxo-mUbrileaFl8WileaM<Tabilf0FbYy~ilf0MboivdLh[0agbObrdLh[1fzaXYdLh[2cec+g5Bh[3m>b
   umfh[5bYYd?cCcY^0boh[7e]au$Dh[8e]adgkbSg0eJ|7m~ceciilfVagaamf1fLcY^0|7qF_abdfhC1f=bpaZbqg0eJboky
   0bofZZmfky1dBk^iln!ilnjagOf6iljRilpmiljp_p]ilh^ilo:ilu6cY^0|7dac*Ub,&tg0eJ|7ixilk|illD.za]ilu7il
   ynilyo$LpBil!E_abe(bBilpnilypil!FilpoilnGil*,ilv?ilo;ilmRilvA|:a]ilu8illEc*almfu37ileKilrbiltBil
   lZiltCilu9ilm4ilu:ils^il!IilofxoL=cdLo90_)%zZf6dLo95bohUTblx.m~afg4abx.fVolx.fLx.qFafWt^x.dIx.f&
   dLkM0agbO[ai0bCab!Pa9BkM1dLkM2pGabx]b$FeJmfkM3agq]dLkM5x.jRcY^0bokM7(>PTaxg0eJbokM8dLkM9x.jpx.h^
   x.o:dLtA4itlPx.oex.dax.ixx.k|x.lDa8bWSb!L|7oew6bXw6bkw6c$w6cAw6cRw6cww6dMw6f3w6eaw6f0>n0>n1w6h[>
   n3w6ky>n5w6kz>n7>n8>n9w6lqgmo92gmo96gmo97gmo98w6nFw6pmgm3cwdCixha!hg)Eadagt^qwe*r:bTajbObPdXdCix
   nl!!i.n0:|o5|xdOf^lta2rKl(!]h>vRs$m:lC]h]i(I]ja3dxa3dYa3f><ln0+]]h]i(I]ja3dxa3dYa3f>a3r*a3hca3j,
   a3o5a3yNa3t%a3rKa3b!!]a3>[<l?gdCk|nka*c0fhi[.].rf^Rbbo%.ra3^Va3t5(Ia]a+DgA_.yid!fRbba.+Df5a+.yid
   q$*4a3t5(Fj~b,cva[lTbrhsm[k%a>fRjwvlgw.ut%j9dli8]~]vj9dlbDwij6]u]va9lCa:x9+]a:gphrbDah*Fhc]va9lC
   a:x9+]a:hca:t%zkbpd7Se+.Bs|m[jUa]fZtTdj]%<Ua3<&MhAhLd0nqc2idlfe=a3=0]%cEi1acAlTg<DvlbISa4dfIc2id
   add1b,!Kfnlf.uhca>xAjle+aZMhAhLj0a3bVb|~Ra3=0]%a8o5d1b,!Kfnlft%a>xAjle+aZMhAhL_t%a3=0]%a8lCuWa3d
   fIc2idlf:vTb,!K~Ra4=0]%a4Cabnvaoada4d7XhLtTdj]%m[lVa9bRe8lRcvlTy7Md7Sa3=faolft%a*dGfRc,a>xAjla*:
   rpDa+$Z*Ec3aba+bDwiTa+DvlbIa+Ocha+e=cechSa,g=a,c]a,gpa+=calbx*EKcgiub4i[b!a+kUb9a+m7Ke0a+XkQdja+
   abbDc7a+abdQb9a+GeJbIa+TgAB:2bo&ua+<Pa+dGk%][%WOf5a+aabag8a$Natc5bIdClDf&a$j+adafp?vda+bLCe0a+b!
   MbLCe0a+b!e[Ub(a,banKiGa+b%+DAa+Dac*rcCa+bcaa*rcCa+b!SahaocCa+hwb5bacCa+dna+iIbBd,a!dnCe0f!dClDh
   ^(Ff!geUe2c9s;bX0ezbGIzZb4bagLc,byarkQbNr;e?bgbQeda9bDecg$arfmauaog5bC|Wj8atr;bOL=ca8d=bLTr6]mab
   aqcSa8y3kWIe;Dfm[rd<adccaX%?bIec(.d)%0a8s8a8bAataZc(fm^7=DbyuEb+anc+bgfmatBd),jfmf6bgN%REfpg5.ca
   8p]%Pf5mfivSy&fmbra8eJtUdNaXa8ang5T.qffc7b+&KTalb+Vr:(2i1cCa8b,b!ecb+c+eqqPXz^jcd(Tb+jEaha8bbuja
   Z.9btXb+Wd[bob>fmt:%:+DEgIs;1lEa!eqC>xa^$,e|Hcxd8a2bqWeCa2jWJdZkVh7cYbEcYMbENa2:!dZKfTc^a2cJTcJw
   lace+ops;2ead!ab>xe42d8h7fkntRh7DeTkVe|cYa2bSD&tcJb)gE2c^cEbi8fkbENa2hNd1T2dK%Ma2bqaxr+UjLdZ2bED
   fkvscx2r2r22t!a2kSCe&9d1cJr+nMfTRcYBcYB2cYB3cYB4h7D2d02fkr+3s;2mRd!bdhsdJ]$b$lVb4i^)=_nEaajIt3[4
   yN;.<wtVVuf>[crs$fflC)z!Ba9r*s;3cRa!f6i0(db0hCy1^ab+g5Zb+n&a]b+bUk+>L(~tZi]u%b+b)y1bj^,djd%^^ls%
   ?cvb+d:b+?raZSqQb+IbUkfEb|bE$<g%h8.uhc;.s;dI9nwa~Yb+k>aZNc*b!a9n)aZNk?Oa]buoMHSgnAbhKadcx($a^=vS
   b3I&~cCkVAbha]h%IUJ*oGLtTIUa]d0c5dZcChxnVcCcYadlxd7UovkA*lbBcCdKAbha]Rf,s$m:b9f5f2nHci*^IWSfDaaJ
   nSkNwW.HWSe+c|bhe~a]aYbEssi8s;h]**k^n9yzb0addLbBa8d=bUanbU.fc9bUkcc9bUZbraqkcaiaqzWcNb+aXm+acOoy
   ac<AcQObUg4EbUalbUb%bUbDjKbCaZffb)g$bUb)bCg$bUi1ffz0bjb~(0?rfITb%bjbJkBaZkBaZbUYbra8<,(<fge0)9k^
   n9yzb0y$andkgBbDh)acOeLb%IdCpnfLa!Ur$ai|=lea^c7TfJcXLjmlRtO(!W.wcfa^c9tObxcJq7;8gEaa)PDa^q^d8eMz
   TeCwzcXKe^aadKbfsgax(3^6b)iTzHfJwxd1bSbqbfb|Us;jR3xuasi0tdf5pIk^n9^X+EaqjK;2+;qX+<zLwpwpbU~pbju>
   DbUDbjpJP>w*7lbNbjgwMm+bjfg<L*JlyRbjl^sfxmn4b|aqbGs;5cRo,ozZc2aqnHozZ|Hc6o,ozZ|HfIXb)n$cg*mfgc2H
   cgAl|%QHcgAl|c6dLdNhCUbgi|fDasi0td)N+,jPhc*gi8s;da0uNSi<b$g(qkdkeL>>jTia(0!&dkeL>>jTiag$b^ffy~j8
   bjc3b+e<g4b+c7b+bxb+beb+h:b+e7b+cIffd=ff?rbWb+,]f7b+djm^izi]m^^|^,>L(~tZj$qPbUEWi7qkdkeL>>jTia(0
   !&dkeL>>jTiag$b^ffy~j8bjc3b+e<g4b+c7b+bxb+beb+h:b+e7b+cIffd=ff?rbWb+,]f7b+djm^izi]m^^|^,>L(~tZj$
   qPbUEWtRck>xg4dfd1rpgPbPddl2a]ayc^bSeBalorbBbCxv^4hge|($]dc)cxdNa2cQWa2f7YeCz!.yidkAgR<$nuaxbG-b
   zb8d]cYg*axjrd0h4b3b)b3ana2a[:if6a2tqb3g1b,abzTd0brb3<$buaxbMe~gke~OZaxOcib3uKabaxasb3bha2aZRa2a
   b=Rd0=6hLxvWa!d9o<cgb0f;e|d5fO$$jmbee;fTf2iJIaad8bzCeyNcxnSvcAgjl)gjg2ad)5aaknbL.5a2bze1a^axbqbS
   Ub3a^l2g$s;mR0kKdCpof&a!d9dNb*g(aqq~vCb^HdLlyp!rhp!b+EoHfIHfgbUk+rh;2fgl^gwlbb~Oaafxaqrhsdsfn4i:
   rhi:j6aqrhj6wqn4&ybjsi+XfIxm*LdCpolEi7aqq~vCb^HdLlyp!rhp!b+EoHfIHfgbUk+rh;2fgl^gwlbb~Oaafxaqrhsd
   sfn4i:rhi:j6aqrhj6wqn4&ybjsi+XfIxm*LdCnGkza!e;Bdnadb0gnpN^QwsjIDwsn%Ebq$.wtwtJaxn%bqJsuaxaXh7aXc
   YjIjIf,Jax.v.TaxalfTalc^.Wwu.Vaxbfe8XaxYeCaxiRaxiPwth;MfybOdCnGpnd!nHpqb%lfaYBad>xaYT%RTfwg*hWbr
   tUBm^abLtUrta8iRciwh%?p!fCWDm^fIbhBkWaqLr;aafg<NrthWglfm(UJc9Xev(Ueqaia8bOYTm<eyb^asqQOff.kCcgff
   bIQm<abcry~ChWZcgffb)gka8JeyNa8a[d%cgffFcXhWZeyqQbrfxacfwbOnv*dTtVYKa8bWYZ]mWRkWOffIc:fmcgWfmeyN
   a8cgYDfxIWR~=Ws;ha7cEai&>(BakvJQImChCBmfb+Cb+bC^aDn&EbUb+Fb+d=s;9qya8fIHfIjXqIqIk+l^d]kjoyoyqIb~
   [~])als;9datVkW=N.g^^g5<Ns;iy4sro?s;iy7i7hCBmfb+Cb+bC^aDn&EbUb+Fb+d=s;9rba8fIHfIjXqIqIk+l^d]kjoy
   oyqIb~[~])als;nl5tVkW=N.g^^g5<N>6jYsro?>6f32a!?Mbtc,btBiVftj.ftjYftkpftk5ftiWftjZftjgftlhftkqftl
   >fto0ftj|ftmiftk6fto1fto1Ffto1MftoSftoSFftoSMftoTftoTMftn:ftpWftrDftn[b^n[BftpXftq.ftp*ftt(ftt)f
   tvxftx&ftp[ftzgft)2ftyDfttkft+Nft)3ft:;ftp,ft&*ft:Cft>,ftcw5ft:Dftcw7ftcw8ftcw9ftdM0ftdM1ftdM5ft
   >9ftdM7ftdM9~T0~T3~T4~T6~T7ft,X~T9ftea0ft~;ftea2ftea5ftea6ftea7b^1bXbic$ftpl8fth[0b^h[0Bfth[2fth
   [3ft1fVaqfW1fVBb^1fVCftkz4ft1o;ftqC0ft1k*ft1ofs6bks6c$s6cAs6cRs6cws6dMs6f3s6eas6f0*y3f0Bs6f0C%o0
   %o1%o2%o3*yfV3B%o3C%o4%o5%o6%o7%o8%o9(u0(u1(u2(u3(u4(u5(u6(u7(u8(u9s6m~s6fVs6fLb^qF3s6dIs6f=s6f&
   s6gbs6h]s6jQ(s0(s1(s2(s3(s4(s5(s6(s7(s8(s9+60+61+62+63+64+65s6da+67+68+69(t0(t1(t2(t3(t4(t5(t6(t
   7(t8(t9b^gb0b^gb1b^4bX$xbk$xc$$xcA$xcR$xcw$xdM$xf3$xea$xf0u.mQ0u.mQ1$xh[u.mQ3$xkyu.mQ5$xkzu.mQ7u
   .mQ8sZg6bkg6c$g6cAg6cRg6cwg6dMg6eag6f0g6wLg6plg6h[g6u2g6r[g6kzg6qEg6lqg6v>g6kMg6tAg6wMg6s]g6r]g6
   nFg6m~g6fVg6fLg6dIg6f=g6f&g6gbg6h]g6jQg6qyg6mQg6n!g6njg6nkg6l1g6lrg6pmg6jpg6h^g6o:g6u6g6oeg6dag6
   ixg6lDb^da3b^da4b^da5b^da6b^s<b^da9g6v?g6o;g6mRg6vAg6u8g6rag6lEg6wQg6eKg6rbg6tBg6lZg6tCg6u9g6m4g
   6u:g6u;g6xTg6k*g6s^g6ofg6hag6tDg6yrg6iyg6xUiFbXiFbkiFc$iFcAiFcRiFdMiFeaiFf0iFwLiFpliFh[iFu2iFkyi
   Fr[iFkziFu3iFqCiFqDiFqEiFlqiFo9iFv>iFkMiFwMiFs]iFr]iFnFiFdIiFgbiFh]iFqyiFn!iFu5iFqziFnjiFjRiFl1i
   FlriFjpiFh^iFo:iFu6iFoeiFdaiFixiFk|iFlDiFu7iFyniFyoiF!EiFpndCvAhazYbk_*y7c$bozYcAitzYcR_b+A7cwcm
   zYdMojzYf3rwzYeae]zYf0e*zYf0c6e*2zYf0e&e*3zYf0e.e*4zYf0fve*6b^o;0agb^o;1<QzYh[khb^o;3_&jA7kybtre
   b^o;5boBb^o;7_cBb^mR6dJYYYzYfL_e7dCu8kM.|bX.|bk.|c$.|cA.|cR.|cw.|dM.|f3dCu8dav1||btf2)^:W+3a:fRk
   0btb+m6bodLl:>6jR3hWZvUv^v4aKmSLa8beiRvUhW=GaEe!aKb>x8a8j[Ea9,Zj[fojcj$vUa8eJb4p]>bdBfwl:a;m6%P&
   Wm6_e<Hj$l:a9y8J)eb>fsb4rJa9LZfsaz%zTa;m6a9yyv4c8!niRa>j]v4qi!agSboe;TqP&Wm6ceb+,Z&jQqi*D~JaQ*jd
   ev4jG=GaEy6e!>be2d%CvU&;d%b4rJv^v4a8bxb)vUd%=Ia9Vazc.dCradM>bkhcxwEm?a6mHe|I=Kd,bY:3a3DawaYa3b(a
   haYa3aYbWf6=6o]bY:3=Ik0af&;>6k|4d!lcbNgD;Sa^axbqbSbfpAdCrahaa2h5>6lD4dZfysu$B(pbfuDaXh7bqb8h7bf)
   Vug%qbSg9^qjIxa!T:!e4zN:*.vbfh%al.1pyfTwzf2axb%c^vo+:d5axaod1%lbfWm%axsjnudClEjQop$$EdClEqzeCAdC
   lEnkeCOa!g*d?:Gx|bIbu$l%R=1xc%QaXl7n&ksm^~?|!bxl7q7~1?u~0:B|gb^skfxb+sgn&(3e<ubkWoHundClEo;l(g8c
   ,+,k<hc*glC]~]uezuZi1acE$lnx=.xcvX(S>H>N[AbxjWq7<)|z~Xw0+Ia3[D|s=s(3g1ub+uuna*f8x:f+bBa[a+vw!!i$
   hcuUa!d7i[bDEadb0e6btn|a3w0gq*ncxxcvX(Sw0xoa3.5>N[Abxa]w0_q7,cw0e]dma3w0]Bdv,cw0_q^a3w0+Ia3[D|s=
   s(3g1ubw0kDaaa3a2undCwQjp!!hYa,C~bjl!!bRe8:|lCdCeKeaa!bGTjV$lnx=.xcvX(S-ub>H>NN.2jWbxjWq7<)|z~Xz
   T;prt|s=s(3HdCeKr]+uundCeKf=!!gGbRe8:|lCezc9acbu>xaYFnxcJxZLa2lRcJn%c|bfgBbqbOcJbxcJq7;8)P[[q^zT
   l(MK=P|sc).Tf1pyb)+ubDU!!gG:|lCa2g.g=dCeKo;xut^qwa!eq+7b0gncxd8spVa2bqYdZh7cYbEa2bSR%Ma2cJbfFkVc
   ^d1cJwl^9eqbENcEdCrbcAa*:WdX>6iy8gxzAailTfpaZdieqcv|=aqb+.xfgWhChCAc6fxaqgwlbd7c6crb+gQc6jGaqb9c
   6fsaq+WHfIsfptc6tVevaq])i:bDc6d%b+bxc6d%b~Df2cyokf5Jr3f5Jc6ajbBb%bWb0aqb+.xfgW>wsdgwlbNb+;<+WHfI
   pta9&TtVevaq])~p=Nb~c2:Ln[dds0dJz?_ukFova8dGfRa2oO$Pe2MTa8g*N+,nEr:hc[4yN;.<wtV!]:Lp,a8lC)z;Y+])
   z!Ba9r*]ua9j,a9o5a9yN]va9rKa9b!!]v[Yxw?ga9lCa:e=a:g=a:c]a:gpa:dxa:dYa:f>a:Nn0F!5ukFl7g<ukFov$y!B
   a9r*]ua!d:abOb)*moMncjKiZ>7bkkCO>7eanw&Yk8cHx3j^a2y[+fmNbG>7u3cElWA:Lh[1bEpe&kpbf2jH=3[nd5Ta]d5e
   cfPbG>7h^epfzv+pqgRa^s?>7lDa*twa*q6hY)Z!7lCa8lVlL!5fR>7lEtu.!k0j=a3cE^HfzcYc(aYcX(HTcCd8q[<nh7d;
   S>7ha]LzI_md>xbOa>b(dvjTbOa]a>q^oGbdjTksr4aaa>uba>c7a]a>unhrbrh(dmh)bLh(bOa]hrc)bOhr;ua>FeLf;a>e
   yNjw=UbOgFxc<z(SgFbGrta>bxa].<eyNjwbG(Sa>q7jTqTo=f7a]crnAv$t%cr$<bu?Jg]i~hz_md>xbOjTi2a>dSa>dboG
   gja>ks]zc6a>aljTc7jTbxjTdjbia>rGa>p.h(dShrc)]ze&a>hnjTf;a>vCjwc)gFEc%jwaYgFwx<yjT+ta>a]wkena>f7j
   TgBHcrnAdPh*(Xj,dCtCk*>rIihEad$lnxa]e|bO=.xccxfps5vX(S>Hk8gRePZ)JeCbGskkA)JkAbGY[AbxjWq7<)dmopdm
   a2d:|zHd8bGdvg1a]cXar~XzT[Db3)JdK$.m(=s(3g1Xbdg1QHbdg1ubgEaac^b)lOunuQj(gzg5e9dCu9fV!!gGbRe8:|lC
   tuw%ddaXbBa[wfbTapzEbTa5a8a2x6h7ssbR%9:Lf=2!hbWbbadb0e^e^Ol;bSadb3adb3axAl2axl2bSz!bqoaUjLaxXaxX
   pwXe8<$h4axiPpNaxJwu.Vwswsn%eczN$.$,$,n%cWaxcWpwcWe8NjIYjINugy)MaxYpwpwe8alnwc^%^.WaxiR.WYm(b)ax
   bOdCm4f0uQj(hqaakgndfNm[d|]&a)ume=a)?!e=a+dGd|~Lx6a+g<icb4fNm[ica+dGvM~Lg<iccZaa>jbvaYby$(hL$l%R
   =1xc%QaXl7n&ksm^~?|!bxl7q7~1?u~0:B|gb^skfxb+sgn&(3e<ubkWoHundCm4qy+,kLd%tZ$1lC]~gZu<b(h6$l%R=1xc
   %QaXl7n&ks-)J-ubm^~?|!bxl7q7~1?u~0-(3H:B|gfxb+sgn&b)oHundCm4mR+,kLd%tZ$1lC]~ezvOahbyu<b(h6$l%R=1
   xc%QaXl7n&ks-)J-ubm^~?|!q7~1?u~0-(3H:B|gfxb+sgn&b)oHundCu:cwl(+sa4z,a2t*c4:]aEbT:Lh^1+,kLd%tZ$1l
   CdCu;ea]Lc*bBK|=n3a[bto8dkjDn3k3Io8dkb+n3a[ce(NE!9B!9EB!9G!9g)!9D!9arosZ!9Y!9EY!9lsv5cels?baY!9e
   ;]|Ta>c%a>y$Aac?baw?bo!?bacYo8dkc(a8n3k3j$kBnbIbtj$a8n3a[dJPa>bda>buosC!9Q?b<*v5ceQ?bab!9aZa>dn.
   ;dja>kOv5dJb)?bbr!9cfv5ceTgmkOdCxTf&qNhgabhLmC>>dcE[ScXBosCa>o!osCz&ara>b>osa?Cb8b!oseLvFa>g)a>g
   )l%Eqo(&E((lsa>gka>=Z]|]|l%c%a>(Xacl%iag$h)lGf6S*1GceEa?h$bapBdcOEeLdfa>y=a>aZa?o^]z]zZa>|Tawa>c
   fl%vGnz(8NlGf6S*1G_uHa?h$bapBdcEmY!KosZz&b1b)auarc,a>cCdCk*bXk0b0>>dcE[ScXBosCa>o!osCz&ara>b>osa
   ?Cb8b!oseLvFa>g)a>g)l%Eqo(&E((lsa>gka>=Z]|]|l%c%a>(Xacl%iag$h)lGf6S*1GceEa?h$bapBdcOEeLdfa>y=a>a
   Za?o^]z]zZa>|Tawa>cfl%vGnz(8NlGf6S*1G_uHa?h$bapBdcEmY!KosZz&b1b)auarc,a>cCdCk*k|+,h8.uhc;.a8lC]~
   m]adIbR,~kRcgb0>wsdi:ecwpzLaqfI+W*7u>+HlyRlyxmsfn4k+Gaql^gwlbc|a9Kaalbcga9KaalbcW;KVa^eH_aqjKb+b
   Si^afgkaacrhKd:a[Nf2(rg?i[bGffbDeMaquGaqbDSb%dCs^h[;hdChakza!m8tKq6i.d;)Z!7o5|xdOf^lta2rKl(!]h>v
   Rs$m:lC]h]i(I]ja3dxa3dYa3f>a3r*lL!5fRa8?<t5a2:rSdChal1a!c3ZIbab0Ec+Fe|zNaxcv.Vm(pNg*org*orfpMe+b
   zXdsaYeCaYfTzC+BfOf2aagEaac^c)d8c)d1jHaxErtopbOrtddfPaqxAjlkVgj;8dZbGFcxgj)PcYg*zTa2bg.5e~Wd0WqO
   m:fCcJcfdChaof^ecUmrdX%N!Ja+*<f(dChaiyePi2mJa3fCTmF|ogb6]Lafdi+7$lh&%Ra]h&fwxca8bOh&a8ksm^~?|!q7
   ~1?u~0:Bh&v^d&x8|gb^ska9kxb+[~sgbOh&v^d&x8a8ub-)J-c2(SkWoHunh&v^d&x8+,mOhc[4lCdd!5fRh7odbtsk-c2(
   SdCtDkMczdi+7$lnx=.xc>H>N[Aq7<)|z~XzT[D|s=sub-)J+uun|wjWaXb)a*ghPg,awkDaa^ecUs?a3x6a2zpa3x6a3mSg
   5)De!gzg5e9a4fBa3uba3yX!!gG:|lCtu_g<oVSv^c4cEd>sva2e=j=Sazc4e+aYFj=svdCtDk*a!f6i0UYiPbB$l%R=1xc-
   |!ksm^~?e6xol7q7~1?u~0:B|gfxb+sgn&ubkWoHun!nb)cEt:zpa>e9a8ndfMaEe9dKmPfza8e=fzz&c4xxdCyrh^wcasdn
   MhL$l<mnx=.xcvX(S>Ha3mSou>N[Aq7<)|z~XzT[DdKaxub+uun!!hYd1ac!7lCdCiybXa!e;YbIbu$lnx=.xcvX(S>H>N[A
   bxjWq7<)|z~XzT[D|s=s(3g1ub+uuna*xdeN)J-q7HdCiyfLf[b9HnK=u)ifOI&~>%|D^w[j<0)E;i;O,F,Dd]a^k^genp_d
   ]b(iDb9h)Nd7mGAa9BbGTy(vkbjm3kfsG;3;5o,a*tw$stu.!<nh7n0u=+wfz(HTcCdCvBky!!i.n0:|o5|xdOf^lta2rKl(
   !]h>vRs$m:lCa8lVkKepce,hgenp_twePk^genp[&Ep~g+ce,hgenp[&EaKOePk^genpe*b(dCvBlD!!k(pIcIakI=uy[ePs
   Nax!1sMnhDbzcBbzRni&k;IrY^bt;>tf,+yuQbvuwac$<f(a+Ngu:0a,cH$snciZdCxUgb~tc,f9|om40czudafatPj$imAe
   <(gdLAe<pqe<c2e<d=e<bIe<cWAe<b(HcrAe<l$e<ibe<cge<b9e<dSvZe<pAHcrcgHb^e<rge<Ie<Ue<Oe<[bbIEdCxUmR;
   h|ok*8wcgkbI=uy[ePAl*|1cIfybGa^d=fJbGr8Ag[Aa^ihfOAfObGf,cgd5bDl,Adsc2g;bGf,d7a^bDiTAa^c2dsbG*pe4
   Ae4bGgnAgnbGa^bI^5cga^cg^6a^b(a^c|f2A*oAncp8^bb^bjOIa*OdXa+nHa*tw]XeycgAdCnln!kK:0$s*YePLbGAmGaq
   EIePl$A|oiy8xqbGJadI=O|1(po6ClWoXpesAnghxt8?GRb9yL+y&f:0a*xdkDbNewiV6tRabc)A=uy[)E;i;Ot>yck:*qfP
   quzU;3;5t;>ta^yFbzl]&~>%|D^w[j<0<b$s&fc!hbg]d.b>fpdXyL+ya*eHw~ijdXa+p?b9[&eHa+eBz+g+bybNb)qTbIz+
   dJk8kJC)ckK%IcIM:^doh;a*edyXajdEaaUf(c,:0bi|Rc6ewl>3czaaeMhKn1lTq6nEaajIt3[4yN;.<wtVVuf>[crs$ffl
   C]~ewmh**Kc9JgPb0q5|1!1q)mNl4bznDfOpAewj|3bEnhn?g;DdssAlmgnBmqmKt8?GkemGn2^bt;p5IeJf,gdTiJ|B$sxu
   t^qw:0a,cH&f:^gdbLewc$mRgxcjuGI=Obfsujmd=ewn[0cxbGewn[2cElWfOpAewn[7bEnhDg;nisAe4bzi[ewcAcAe|bzm
   Kt8?GRzxbG:0ewcAqEa!d:Uc2c|bab0sNax!1q)mNl4bznDfOJoXnhDzCRg;nisAlmgnBmqmKt8iJk]bGk8)YrY^bo,yLgdT
   $UozewcAm4kKzsbXk?jVqTc,bYt:)Yv+CwBy[zscw)Efszsr[d0axkNzsqDe~O?jzsn!>8b9zspm~ekezso:es;IzslD>0b.
   boaahwj^k?jVqTc,cD[9zso;a8?6zsraa8~VzstB<bzsxTa*nH^Izsq|epbyd(bDePvQlT)Ya9cHa2;oewcwc$)9GjVa]hKg
   gb~mxewcwh[nwa~aqk+lb*JibewdMdatSc|b0wD;i;Oq)o6cWr8bzClWoXe1robzecmunifdf,bzPng)Vbze1zxbzuDLbzWq
   uzU;3;5t;>tg[wB)if,,Sbze6_)Y<ba*b%cBfp$sy2xtau!f%9&fkK*WuubIgZb(j*c9[sdXewf3lra*zDaZzcd.b>fpdXeP
   vQlT)Yk8l]&~>%|D^w[j<0ew,X**aoR!NbD]?l])E;i;O,FquzU;3tUa9o^+5,lo^o,ep%m)i)|f,,SbGxtVc(&f<beweapn
   kK:bp[a!b%cBh;b0wD;i;O,FquzU:bf06;5o,ep%m)i)|f,&Db%cBh;$sc!hbg].!a2eba*.NcfuadXbi|Rc6|Re&a*q8vTX
   b$i^:0azeGDawdeU?ebQ!$SaK$9u=+wSaBb9nvaRcHaRtsrzx3v^b9nva8j]cHbY^HSa?tsa??XaXa?b!PTbMaXk1d>b4h9b
   9nvaKg<o!b8eBq&aLc]ePg=d4d>_xAI(Ld4d>a>kSxAUa,f:a>r+:bkz8ldbab0wD;i;O,F,Dkeu*;3;5t;)i)|a^bHbGCjz
   $s&fk8!Nl$ewh[l1kKewh[pngxjdOc+adbo|2az!$a*v2B|2*Wbo|2az!$a.tsa+B|2%aa+v2B|2apa?cHa*kJBbhGaqj]i+
   !$d.WbhLbobhGaqj]!$a?cHa1z,ewh[iya!kmbNb0sNax!1,FiJ?GRb9k8y[rY^bt;>tf,+yeP&Te]bG&f:bf&0kKewkykMa
   !u<atwwjmcWf,a^bDa3kxzNlmmcfOj!iTa^k:f2)Mbzdsdsbzd=a3kxwtkHbzJbzxAi[ewkyo:zJ+=:G%db9a?Lo$b.nc*yp
   8b+%0qP+5cXepe]ciq!ewkymRkK)ZuUepd*q$g8a3:lb(I$J_h6ePCd5n*fdlxkeewkztB%FjEb0sNax!1,F,DRb9u*;5t;)
   i)|f,+y&f:bm40lKabc(bYaiImCcWAdcdcWdkYe)w(fCa>(&(8eLiac(<|h(iaacl%hp((,sa>=9(NcBh*bxh)hg<za>bra>
   cXgme)Pe)fpfCa>c9b8a>csRa>g?a>b|(8b%dkh6slb;b0cWAdcdcWdkYe)w(fCa>(&(8eLiac(<|h(iaacl%hp((,sa>=9(
   NcBh*bxh)hg<za>bra>cXgme)Pe)fpfCa>c9b8a>csRa>g?a>b|(8b%dkh6slggthaajIt3[4yN;.<wtVVuf>[cr?gewqDf=
   a2ata!babWb4gkbBUb0*yp8EewqDnjqPewqDl1evaq+XqXfIcWzL*|pAewqDixcrfgTbD:biy0a8;k+nlb>|u>&y;;cvhC~j
   gwfgY~P<Ln4b|^MfId]aqZa^f:btdcdk(&e)(8E:bnl1.;dkO:bnl5c^(riwzLnfDbjeMe5)|e4al|$bQd7vOc,cYar:Ge1f
   Hxna3i6c^b[cD&Di+Db>fJau!f%9a2q8vTXb$i^>Tj|;h>Tf06nOb>aadN*rb0wDjGRewlqdM;O,F,Dd]zCb9u*ewlqu6;5t
   ;)i)|a^yFbzb%cBh;a*edyXg+bybNb)qTbIz+dJewlqhaz2adfW[Pabzyb0a^f:_dkUeLe)eLOeLiaAdkAe)j[bUaX&Ynwa~
   k++XqXfIcWzL*|J;K[I;k+nlb>|u>&y;;cvhC~jgwj6wqn4kcaqkcfIZfIxm-aq~P<Ln4b|^MfIKb|a^e6bYqS^<i^c^(r>t
   zLnfDe)j]!$a:Cb>lyiwaq%BeRg[r&ah-fHb0Rg[r&ah-e6b0w(b9a>%dVa^fH_eddXa4CjJb.|R;ZkWc)a9cHa8fB;Za2fH
   _tjkTbQeddXa5CjJb.c^bl~|ewo9mRcz<>atbAoMncbUw^bjb+b~<Aq~AbjiZk2nw&Y+fqvpesAngM&.|m&4~xa^-u[t8,DK
   b|Ak8l]&~>%|D^w[j<0ajr&ah-fHb0;<n4pta*e6bYv6dBh(a>cWjwh)gmiCiDk2r4hra>-Ak8y[xt+C&>):~|z4;ZgEc)<n
   dKd(bDa*eddXaze(a[c8afbLc8c*iMaXcmb(bVaRb>aQa*ahMd$dXbi|Rc6>Tf&8d!l++7wm;vb4Nbraoc+KojbUfpbUtJc9
   b~fIbGaqb)bNkWbNbUb)b,kWb,b~b)lyb)b9f2Pm(PbqpCvoibeznHbYaawbUb0PdccIa>%dbI<z.<dcVdccWdcy5d=h(bGh
   rx0dcCdc$4a]dcd7oty5b9a>FdcbCdcdceLdkiae)UdcIdce6by^%z;=&*i=%aEWaEcWaEff?p%wfBaEd)b>fpdBwEa8?p%w
   fBkZaFa9,qfpdBwEh*dGfBaEaEfBkZaFd<f5-aX|)c*h8&|_e%Ie5d<f5-aX|)%wfBkZaFoE-[cb.%wfBaEfwwEoE-[cb.%w
   fBkZaFa9&|ews]cRf[bGIgvgPb0wD)[ews]ky;O,FquzUk2>TlE0;5o,ep%m)i)|a^yFbG$sxut^qwxtau!f%9bif^%9c6>T
   eK4kK!!i.n0:|o5|xdOf^lta2rKl(!]h>vR?ga*i8b4.rdXewr]kza$<;bC(Wedz4pLD+fjmGa^nDf,YlX&?lmmc&.|m&4m%
   ~xa^-u[k:iJ?GAewr]pm):rTb0k++X=AzL*|J;K>|u>;;cv>wgwj6wqn4kcaqsiZfIgBewr]vAa8~Pn4sffIAmGaqjK^]k8i
   wg[)c>Tiy0xqSabcXdBa[bab0*yp8E>Tiy8+5OewnFo;b^bjk++XqXfIcWzL*|Jwp+nfg[I;k+nlb>|u>&y;;cvhC~jgw~P<
   Ln4b|^MfId]r=b|wpNfgTh%f:btdcdk(&e)(8iZ>UnZos>Uk6.;dkO>UoT.;wz(riwaq%BeRr>gdi:Cb>lyeMe5)|a^.Nbz+
   )uCA>Up[;h>U:Dk?bLJ!zdBa[bab0*yn2r+>UdM3a8?6>U>9a8g$b^bjfgVhC~jgwk++W>|l^GqXfIu>&ylbC*|[Id]wpwpf
   I;kfIcWaqsdx*fIlySa^f:btdcdk(&e)r+ewfVcRoseLkNewfVf3a>g$.;wz(riwaq%BeR)|a^atewfVqE;hewdIqyxqvyab
   ww>]e4gnmc$Kf,g[fO)Me1t8f2e^a*c(cIncjK^]gZdniUBc(a*q8q$g8ewf&l1a!c+eBb0YbGewf&pn*Onpcm!5:si8-b>&
   rnT,]dP-i8-b>-dxao,]l3ao,]rK-c]l7f4ao,]o5-^Va2>kaoEov<w-c]ova2dGb:nT,]x2a]bia8x2a]c6zkl7l3jWg^b:
   nTEova8x2ova2dG=al7?<fRbia8fRyA$ZxgcPSc;cU%5=o:Yd+HyLe;cE*6$*l;*LgkKbfU*L[nbfg9UVU*L[njLbBbL:*hU
   gkKbfg9KwYbLbqcIcc:!ad>&b5a2e%Agk^=AabcX&2iRbqbWc+a*c0b$Cn]Vf(c,a,DgAa+Lb>a+vOb$Pada+z+DuaaYbYf$
   ai<lgua+mSRawa+b>cecBa+pCawa+TgDaYa+aabyd9b!Sm)a+bblPcUFj+ep$Aa]mbe1l$cIIYabn$ewgbs]tu_q8vTe[d!b
   LEIjl+Eaqdgx0c)gF;ey5.JnVabo4e)g9b)hrdNeTb3BiS,2jwbL3o4e)*9gF;ey5&be)g*aaa>=Lr4i]a>,t,t+;bLUb3B,
   YBaYdNgF;eM^[acr4A;rkmqGDb3KiS^.2r4%Zhi&za2aYiSwky:2gFi|a>bGh(c)3h(dk^Zl|a2aYadb3n|b3M(U&0kDaxad
   p|_r;g^&0fxefd7d=_+8cUadhid7d=aE!W.Sadb)axaulOabc)iSwYa2abcIBb3vOqxb)m^Ic2j0Ua9cIBaqfN+?c*tP2h=c
   *tP2c*tP2h=c*tP2byauaEfN+?aQp>b.+?h=+?h=+?b3b)qxb)v!e|gnc)e|dN3e|Ag?2e|aYp|boaYe|aYdNa2eba2ebA2e
   ||(dcr$a>&b|.z[:&btBaEbL>cb.bo|.cjtPp|bocjtPe|bBe|bB2d8a^=v~=iU5hV;t(kaEcXab^$aYdNaEp<aEd=aKz%(k
   aEr!%S=k%SgRaE^rbhaKz%d(aE))aEb(aEd(aKz%(k2=%bgaEgQj;auhi(2aEb%aEx?aEnMhiG=kaEl|a2qdd8abd8x|3d8x
   |4*]*]Ba2y:a8&0kDaxy:2d8oH%|g%Uo4nsvqa3d8z[it+;bLbjb)~rd8bliS$cd8bl2d8tPd8tPgRd8UHd8bLd8bL3$We)G
   bL|0bL4d8bB&tb+dg(2p|_b*!Rh=+Id0,Y;tbGhic2gFabiCdkvOr4eLbfaraad0Gbhd0L<iiSGu]aEhce)Mb+?aaca9+8b.
   d)dF.SaZ^9^.2d0b)2d0ZaciSAneLaYaQdgLwkad~ajwbL3?VaKGbLe)bG%SbLUa?.J%|aYaE!Warh(U;rb(k2g%dgLwkc+]
   ya>nMa>gRcxqXbLbfd=,Y;tc2hibGaLaK.JfW2j0,tbD[Sy$kOa>,2hi*9~aa>ebhib9gmbBneb9<z*ha>y:_&0r<jwbl]|n
   e%dacaEdgG&gUaAgFabgFdkr!4nedcG=kzeafe)bGhid(hi$ca>eMne%dfphic+<xbl2a>&be)i|hi!NhikOa>))a>%|aYh(
   f5neLaYh(U3hiy$b(iC^[aciCdk!RaEfN+IotdcvOhrabr4EneTbBr4f5hrbga>x?nzgRneDz[_d=2cxfWaq?av!fJc)p|dB
   c)$L~hcxaYfwc)h=dBc)$L~hcxaYcXcxcXcxadcxu]zkz[dBu]a9p>b.cxabcxab3cxkOadcxi]TaaiSwYcx|(eLbj?aGbqr
   !4p|dBI4a9p>b.cxIy:cx=k$Wvsbh3iS;t.JG;et[a?d(zeotfJc5aYcxi|>ccU&ziS*2a>x?zkvsbj?aGbflu,Y))aEdg&b
   e)!RhraYhipEG2$WvsgRiS;twYa?p|dBgR_d(*9cxcjcxbga8&0kDwtbBcxbB7cxbBbLcxbBl|e+aqhc+;bLbfeMe+|(kOa>
   ,2~aa>vqgFc)h(aah)bLr4eLbfwWHbl,Yy$eMa>%|wk=ta>gRe+cj&tbUa^($oCy:p|vSy:|8aE!W.Saea2aebUbaBa8bNp|
   _t[kDbhh=kDbh_gRw:gR$WbfciiSG&gbfci&tg*iSx?>ccUg*a9+8b.d)dF.Sg*lOlObha2i|dZaqdgdcc)nevJ;r,2~agma
   YdNa>ebgmdk^.2a>$c<|gFaYgF;er$aEmopL3hidcGdkG=kgFi|zeafabaE?a&zgFe)GbB7a>.Jg*a>))h(dkKf5a>c+]ya>
   bVnehwaKr!aKbxiCIne!R]3h)eL!RotdkRe)SdcSabr4dc^Zb)f5r4e)Saea>eBHbBh*abnznMa>+xbgbghVPdcl|.<bqcI2
   >ccUcI2l)BdZc)2dZc)3dZc)4dZc)5p|e]c)5l)KiS&bjLaYiS*2>ccUKaYl)M2l)M4l)l!aYwgv!hVUw:=LhVUa=~L%|g%=
   L_dHxgdAb)2dZ|(*2nzgRdZf5dZaadZc5aYdZi|qjiU5p|:YiU5dZz[_>d,2e]Uw:>d,2&23&24a8yl&27dZcj$WjLbLdZbB
   a8+8cUwYdZl|nMdZWUfV8~e=LiSAnec2hibGaKr$aKLwkwky$kOeNIc2j0e)*2gmdkD=7(Xd=gFabgFgRneG+xy5eMa>>d!R
   a>&be)g*nebGaKd(h(dkKaah(U3h(cjnefphidc=La>=t]yk2cja>bVne(Xg9b)h)eLb)b*moafbgr4%Zhi&zhi^.2aQhce)
   b)nMaEmokDnMhrbga>tca>x?h*^[Azeaf,t>3UneAaK,te)nMhikOa>+xl|d)dFarg2r$a8&0r<aEmoafbg$We)~LnVab?Vk
   Daxb(Hb)bfLaYiSLaY)PiSwYneRbf*?c+La2;Q&t=th7bjdg*2.4,YaY~aa>$caEhcUa?Gu]a>>d*2a>g*h(c)2h(c)3nekO
   h(dkb(hikOa>=LiC^[ach)eLNe)b%hikOa>^W2hiBe)pEG2zkbj?ad(2a9+8b.d)dFarkW~r.43.4*9p|_d(*9a9+8b.kW~r
   .4g1Lcjh7bgp|e*bgaEr$~hcYaqdgx?$WbfbI2uTHcYabuTb)uTb)2cYaxbVScYbqmVcYz[bpbfg9G$W+9bLz)cYbBlu2cYl
   |iSdcwYa>xmfNbpl|aEdg;tlbp>b.bpl|cYl|3iSAnebaa?$WUbE*p2bEdNaqtva8&0kDUj0bj+8b.cDdN*pr$bEcXcDUaod
   ]bjbEcX2bEb+dgdcgRkW~rbE|(jII2bEg*iSG&gUaAr$ze^pc2,Yy$kOnekOgFgRiC^[G;eNeL!Rr4EnehKadaKkOaQz%kOa
   AnMa>l|bEc5dNknknplzTa8nVabhVr$aE(kaEvOaKfN+I_nVab_&0*uaEl|zkz[+Ia9p>b.aEnVabw:nVabzT]3ft%,kOv!a
   Ep<aEhwG%SgRaE&b!YKc)3aEb(aEgQaEb%b(3aEnM~=iU5hVp<aK:!e4c)dK^=audK$cdK|(dcfWgmdkBe)eLdk($nznM>cb
   .by:*bhaeiSKwk+xxm+8b.bybhaefT^6B.1fTwzf2dNcDUaod]bjiSdcDe)Dbla>y5))h(bBk2bgiCdk!RhraYr4f5<y[SnM
   a>bla>bga>bBa>l|p|afdN$WbfvOwgv!hV,2c^c(A2c^abgEiJA3iSx0c)gFi|h)eLb)nMh*bBa>UneiJA6gEfW6gEab2gEb
   +Hz[kDb*Gc)h=dBc)$L~haHbDBh=geBgEg)9gEacgEi]gE$cgEi]i2gEf5iSdcg*gEg*iSx0aYgmcjtPjwaagF=7t[%SbLe)
   Kl|nMk2cja>g9GhraYgEaaaegEbhzkz[kDbh|8h=|8gEaiiJz[_tvkD=jnMgEblbB.0$Wwzaec^ae4p|afae4kDnM.0K&tb%
   b(3c^z[afbfeBDc^gR2&(HbBc^bg&((kc^bBc^bB9d1aqx1iSHdkMbUGbLbfbDBp|geBcDIh=cDtKvqw:vqd)dF.StciSBdk
   GgRr4eLb)e)pEG2a>gRa2x?d1abd1.ebLbfaozkbffUuSRiSx?p|(=R%Sc)h=dBc)$L~hd1bfpEG2d1gdd1bgd1bBp|c*bBe
   NAh=eNa^+;gRa8nsz[_Uzdh=zd$L~h.=bBh=afbBaEnsj[~LnsmHfk&tblfkDevl|nMiS*2iCdk,t,tUaQz%U?Va9kW~ra>d
   g*2fkhwGa2bgiS=LiC^[c2r4A;rbfd^lObgbgiS%|aYota^bL$WbfbB>ccUbBkW~r<j,Y;tbGaK>3wkbGh)bLa>nMnekOaKB
   bqbB4<jbqbBI3<jbjdgdckOv!a>ebjwbL<|gFaYgF;er$gFe)y5.Jg*a>i|h(dkLbgiCaaotdc^ZSae4h*e),tG+x+xbBUc2
   a3iSbfl|iSdcKe)wYa>x?fkb)bnl|2fkb)bgbngMgdbq]33iS%|aYfkZbfxmhcbj!WbQdgwYeCdNeCcXbno?2eCbUfNeNbqZ
   I3eC($vZi[j0:$aeeCd+2eC:$U5iSjHblbBeCbgdZaudJi2aiaxfWhV!Rb3B%,a^cXabhVKtPvXG:YiU5hVnMhi(kvXG3a2v
   qzekD|0bl_&0kDax!KachVGgRr4axd=%,adhi))hidc,2cxEo9cxaee+l|l)hVad^ZkO3gFi|gF+x>d,2k2bgotdcb)cjh*e
   )bB2g2v!hVGbqd(2r<b)aehV*2iS$chiLaYr4bfbVb)cYl|3hVZ*p4^p^p9^pc2%,BaYgFIknpl_v2Ns$kg|,djdK$c(xrZd
   K=kc^dNhV&bbfao&tbghVMaxnsUewnkh^i~$<buc,%E+?$y;Yg^vqxx;Yt*U;YdGG$c)z;YdGGi]U)za9.ue=^?2uWaEyla8
   c]^?2;YdP^?U!puWaEyla8c]^?Ua9.ub)ab%,*9hivqaQmVa8dG*1U!puWaEyla8c]|8Ua9.ug^yldJb)kzaKi]lqa8t*yl_
   ;QaK;Q4aK;QbtaQBa8dx_yl+?9m=_yl_g*aa3aKg*aabtaQBtUfhyl_Ub|UaKUb|U3crssylvS;QaKI;Q3aKI;Q4aKI;Q_aq
   e=+?j0Ua:g=a:c]a:gpa:dxa8dGBu])zaEylj9dlBu]aEylcrt[c2mVcrt[c2i]a8dGi]E3a9igdGhyi0vqa9:r*Fgpv7ova
   8dGhyi0ylbta;:r%?dGxC+?a??<k^btb|rulfdPv7a]aK?<dGk%dBbBa?fRtUi2aib*dGt5a>:rz&yNa>t%a8t*nsyla;gpa
   ;dxa;dYa;f>a;r*ewl1pntuc,ce,hbtb|ruad=<i0td)Na8d&+3a9oba>eG[Ya>oQ[Yew4k*0epbtBhV!Rj0e)b)nMb3DhV$
   ce|c)hVvqj0bfi[g?%,fW2h)dkZgnUh=:&hVd72vXhVx?vXGhVwYa2y:hV.Jnsnsbfy:%,gRd8tPhVad^ZkOaEbrfYjwaajw
   bLa>^.2<|gFdkG=ko4e)&za>y5Hdk&be)%|aYh(bBh(l|nMne%|wkwv-k6a>i2aEdgwY]yHhi&za>(ka>bVSiCdkNdkPdk^Z
   b%o4bfE%,wYotaua2^.2_bn$cp$cU$cd0Zacr<b)aehVkOaEfpaE&b!Yb(=%aYaEbVaEbVSaEeBa:cxA%,i[g?2a>y:?Va?h
   wGhVt[aK%|wkaZ(Xd=gFabhibaaKNeLbGhidcKl|nMhi%|wki2aEdgwY]yjTg9b)a>gQneE2aKGdkb)g*.<d+2cxfWhKv2Ns
   $kg|,djcxi]TaahVvsi|hV&zp$cU&zcxnMhV&bvsgRhi&zhVx?qOj0Uo4bf>dkOw:>dkOl)hVBe)cIa>nsnse)bBg2v!hVZU
   h=eNbfwv-jY??o1??pV??q.??p,k9wI1k9wJ2??f39w:wv-f39o4bfwv-ea0??~;w:wv-~;??f02k9bim~k9bin!;4wL;4qD
   ;4qE;4tA;4r];4h];4yp;4!Fk9p:3k9p:7k9p:8k9e&u9k9e&m4k9e&!I,1mQ,1lriSGe).J(2hid(3aL(2zea>nMhiBa^wv
   e.pm,1ix,1v?,1u9,1!I,1ha,1q|,1yrk9egpmk9fveak9fvu3iSkO~ajwbL3?Vo4e)vJ;rb(h*=7bxa>nMa>+xbBgRa^wvf
   vf&k9fvl1iSDbl<|a>t[%SbL~%dk(2hi(2hid(3r4i]hiKdk+xbBgRa^wvi?kMk9i?lr.42?VhVkOiSvqa>eMotaune(2hid
   (;rx?)5higB7cYl|h=bpl|hVd=aK))^pc2%,y:o4e)&zgFcj<xdkdAb)2a>wv-p,a>(kotauhi(2a>Unee)bBgRf2dN?VhVf
   Idgacr4b*brfYa>x?gEA6j0=jb*fNkDb+z%Hbl2h)cX2hrabgEnMhihwGhVNdkE%,wlb%hVx?a2x?zeafdNd1bghVG;eg^vq
   <j2_tviSgR<jUhVDx|;rwvfvnG]y3eCA7eCUh=eNUzeafabeCU5hVg^vqj0UewwQh[d!lcb,-mVOadc,bYMiVeuj.eukpeuk
   5euiWeujZeujgeulheukqeul>eukYeukYBeuo0eul?eumieup&euo1euoTeun:eupVeupWeurDeun[eupXeuq.euq0eut(eu
   x%euqeeut)euvxeux&eup[euzgeu)2eutkeu+Neu:;eup,eu&*eu>+eu:Ceu>,eucw5eu:Deucw8eucw9+g0+g1+g2+g3+g4
   +g6+g7+g8+g9+i0+i1+i2+i3+i4+i5+i5B+i6eu,X+i9)I0)I1)I2)I3)I4)I5)I6)I7)I8)I9+h0+h1+h2+h4+h5+h6+h7+
   h8+h9&<bX&<bk&<c$&<cA&<cR&<cw&<f3&<ea&<f0eupl0&<h[&<kyeu3bkeu3c$eweKkMa!g)lcaolffpaZdieqcvbtiVb3
   j.b3jYb3kpb3k5b3k5e^iWb3iWe^iWBb3jZb3jgb3lhb3kqb3l>b3kYb3o0b3mhb3mhe^l?b3j|b3mib3mie^nZb3p&b3k6b
   3o1b3oSb3oTb3n:b3pVb3pWb3c$ppn[b3pXb3q.b3p*^fqxt&e^q0^fqGcAr^qe^fppcAsacArcp[b3p[e^cRt?cRqx&$e^c
   Ru4)1e^cRqGcRr^yDe^tkb3cRppcRsacRrcp,b3cwt?cwqxcwu4cwqGcwr^cwwPcwppcwsacwrcdMwKdMt?dMqxdMu4dMqGd
   Mr^dMwPdMppdMsadMrcf30e|iVe|j.e|jYe|kpe|k5e|k5gniWe|jZe|jge|lhcEiVcEj.cEj.g[j.BcEj.CcEjYcEkpcEk5
   cEiWcEjZcEjgcElhcEkqcEkqg[l>cEkYcEo0cEmhcEl?cEj|cEmicEnZcEp&cEk6cEo1cEoScEoTcEn:d8iVd8j.d8jYd8kp
   d8k5d8iWd8jZd8jgd8jgdslhd8kqd8l>d8kYd8o0d8mhd8l?d8j|d8mid8nZd8p&d8k6d8o1d8oSd8oTd8n:d8pVd8pWd8rD
   d8rDdsn[d8pXd8q.d8p*d8p*dst&d8q0d8t(d8t(dsx%d8qed8t)d8vxd8x&d8p[d8zgd8&$d8)1d8)2d8yDd8tkd8tkds+N
   d8)3d8)3ds:;:H:Hdsp,B:HC:HD:Hwsp,F:HG:HH:HbqD&*d8>+d8>+ds:Cd8>,d8>,dscw5d8:Dd8cw7d8cw8d8cw9yG0yG
   1yG2yG3yG4yG5yG6?z?zdsdM7B?zC?zD?zwsdM7F?zG?zHd0iVd0j.d0jYd0kpd0k5d0iWd0jZd0jgd0jg.Elhd0lh.Ekqd0
   l>d0kYd0o0d0mhd0l?d0j|d0j|.Emid0mi.EnZd0p&d0k6d0k6.Eo1d0oSd0oTd0n:d0pVd0pWd0rDd0n[d0n[.EpXd0q.d0
   p*d0t&d0q0d0t(d0t(.Eqed0t)d0vxddiVddiVnSj.ddjYddkpddk5ddiWddjZddjgddlhddkqddl>ddkYddo0ddo0nSmhdd
   l?ddj|ddmiddnZddp&ddk6ddo1ddo1nSoSddoTddn:ddpVddpWddrDddn[ddpXddq.ddp*ddp*nSt&ddq0ddt(ddx%ddqedd
   t)ddt)nSvxddvxnSx&ddp[ddzgdd&$dd)1dd)2ddyDddyDnStkddtknS+Ndd+NnS)3dd:;ddp,dd&*dd&*nS&*Bdd&*Cdd>+
   dd:CcxiVcxj.cxjYcxkpcxk5cxiWcxiWfJjZcxjZfJjZBcxjgcxlhcxkqcxl>cxl>fJkYcxo0cxmhcxl?cxj|cxmicxnZcxp
   &cxk6cxk6fJo1cxoScxoTcxn:cxpVcxpWcxpWfJrDcxn[cxpXcxq.cxp*cxt&cxq0cxt(cxx%cxqecxqefJt)cxt)fJvxcxx
   &cxp[cxzgcx&$cx)1cx)1fJ)2cxyDcxyDfJtkcx+Ncx)3cx:;cxp,cx&*cx>+cx:Ccx>,e+iVe+j.e+jYe+kpe+k5e+iWe+i
   W^4jZe+jgoCiVoCj.oCjYoCkpoCk5oCk5a^IiWoCjZoCjgoClhoClha^IkqoCkqa^Il>oCl>a^IkYoCo0oCmhoCl?dZiVdZj
   .dZjYdZkpdZk5dZiWdZjZdZjgh7iVh7j.h7j.=2jYh7kph7k5h7iWh7iW=2jZh7jgcYiVcYiVmciVBcYj.cYjYcYjYmckpcY
   k5cYiWcYjZcYjgcYlhcYkqcYkqmcl>>(>(mckYB>(C>(D>(ugkYF>(G>(HcYo0cYmhcYl?cYl?mcj|cYj|mcmicYmimcnZcY
   p&cYk6cYo1cYoScYoSmcoTcYn:cYn:mcpVcYpWcYrDcYn[cYn[mcpXcYq.cYp*cYp*mct&cYq0cYq0mcq0BcYt(cYx%cYqec
   Yt)cYvxcYx&cYp[cYp[mczgcY&$cY)1cY)2bEiVbEj.bEjYbEkpbEk5bEiWbEjZbEjgbElhbEkqbEl>bEkYbEo0bEmhbEl?b
   Ej|bEmibEnZbEnZf,nZBbEp&bEk6bEo1bEoSbEoTbEn:bEpVbEpVf,pWbErDbEn[bEpXbEq.bEp*bEt&bEq0bEq0f,t(bEt(
   f,x%bEx%f,qebEt)bEt)f,vxbEx&bEp[bEzgbE&$s3iVs3j.s3jYs3kps3k5s3k5f,LiWs3jZs3jgs3lhs3kqs3l>s3kYs3o
   0s3mhs3l?s3j|s3mis3mif,LnZs3p&s3k6kniVknj.knjYknkpknk5kniWknjZknjgknlhknkqknkqf,Ul>knl>f,UkYkno0
   knmhknl?knj|knmiknnZknnZf,Up&knk6kno1knoSknoSs!iVe~iVs!j.e~jYe~kpe~k5e~k5s!iWe~iWs!iWBe~iWCe~iWD
   e~iWaxOiWFe~jZe~jge~lhe~kqe~kqs!kqBe~kqCe~l>e~kYe~o0e~mhe~l?e~j|e~mie~nZe~p&e~p&s!k6e~k6s!o1e~oS
   e~oTe~n:e~n:s!pVe~pVs!pWe~rDe~n[e~pXe~pXs!q.e~q.s!p*e~t&e~q0e~q0s!t(e~x%e~qee~qes!qeBe~qeCe~qeDe
   ~t)e~vxe~x&e~p[e~zge~&$e~)1e~)2e~yDe~tke~+Ne~)3e~:;e~p,e~p,s!p,Be~&*dKiVdKiVe4j.dKjYdKjYe4kpdKk5
   dKiWdKjZdKjgdKlhdKkqdKl>kViVkVj.kVjYkVkpkVk5kViWkVjZfTiVfTj.fTj.zCjYfTjYzCjYBfTkpfTk5fTiWfTjZfTj
   gfTlhfTkqfTkqzCl>fTkYfTo0fTmhfTl?fTj|fTj|zCmifTnZfTp&fTk6fTo1fToSfToTfTn:fTpVfTpWfTrDfTn[fTpXc^i
   Vc^j.c^j.f2jYc^kpc^k5c^iWc^iWf2jZc^jgc^lhc^kqc^l>c^kYc^o0c^mhc^mhf2mhBc^l?c^j|c^mic^mif2nZc^p&c^
   k6c^o1c^oSc^oTc^n:c^pVc^pWc^pWf2pWBc^rDc^n[c^pXc^q.c^p*c^t&c^q0c^t(c^x%c^x%f2qec^t)c^vxc^x&c^p[c
   ^zgc^&$c^)1c^)2c^yDc^tkd1iVd1j.d1jYd1jYd5kpd1k5d1iWd1jZd1jZd5jgd1jgd5lhd1lhd5kqd1l>d1l>d5kYd1o0d
   1mhd1l?d1j|d1j|d5mid1nZd1p&d1k6d1o1d1oSd1oTd1n:d1pVd1pWd1rDd1n[d1pXd1q.d1p*d1t&d1t&d5q0d1q0d5t(d
   1x%d1qefkiVfkj.fkjYfkkpfkk5fkiWfkiWa^UiWBfkjZfkjgfklhfkkqfkl>fkkYfko0fkmhfkl?fkj|fkmifknZfkp&fkk
   6fko1fkoSfkoTfkoTa^Un:fkpVfkpWfkrDfkn[fkpXfkpXa^Uq.fkp*fkt&fkt&a^Uq0fkt(fkx%fkqefkt)fkvxfkx&fkp[
   fkzgfk&$:a:afPiVB:aC:aD:aaxViVF:aG:aH:abqVj.esj.fPjYeskpesk5esiWesjZesjZfPjZBesjgeslheskqesl>esl
   >fPl>Besl>CeskYeskYfPkYBeso0esmhesl?esj|esmiesnZesp&)H)HfPk6B)HC)HD)HaxVk6F)HG)HH)HbqVk6J)HK)HLe
   so1esoSesoTesoTfPn:espVespWesrDesn[esn[fPpXespXfPq.esq.fPp*esp*fPt&esq0esq0fPt(esx%esqeest)est)f
   Pvxesx&esp[esp[m%iVfDj.fDjYfDjYm%kpfDk5fDiWfDjZfDjgfDlhfDlhm%kqfDkqm%l>fDkYfDo0fDmhfDmhm%l?fDj|f
   DmifDmim%nZfDnZm%p&fDk6fDo1fDoSfDoTfDn:fDn:m%pVopiVopj.opjYopkpopkp$$kpBopk5opiWopiW$$jZopjgopjg
   ^5iVk.iV^5j.k.jYk.kpk.k5k.iWk.jZk.jgeCiVeCj.eCj.jHj.BeCj.CeCj.DeCjYeCjYjHjYBeCkpeCkpjHk5eCk5jHiW
   eCjZeCjgeClheCkqeCl>eCkYeCo0eCmh:V:VjHl?B:VC:VD:V%^l?F:VG:VH:VbqZj|~3jHj|B~3C~3D~3%^j|F~3G~3Hl;i
   Vl;j.l;jYl;kpl;k5l;iWl;jZl;jZe^AjZBl;jgl;lhl;kql;l>l;kYl;o0l;mhl;l?l;j|l;mil;nZl;p&l;k6l;o1l;oSl
   ;oTl;n:l;pVl;pWl;rDl;n[l;pXl;q.l;p*l;t&aWeK8iyi(_~|a3dua2zDaZb$tEnrcalPa?lph*bd_g,a?lp~BvjlSnxGa
   aafg)pBa3g,z>nFqza!advuc+lffpaZdieqcvbtiVb3j.b3jYb3kpb3k5b3iWb3jZb3jgb3lhb3kqb3kqe^l>b3kYb3o0b3m
   hb3l?b3j|b3mib3nZb3p&b3k6b3o1b3oSb3oTb3n:b3pVb3pWb3pWe^c$ppn[b3pXb3q.b3p*^fqxq0^fqGcAr^qe^fppcAs
   acArcx&e^p[b3cRt?zge^cRqxcRu4cRqGcRr^yDe^tkb3tke^tkBb3cRppcRsacRrcp,b3cwt?cwqxcwu4cwqGcwr^cwwPcw
   ppcwsacwrcdMwKdMt?dMqxdMu4dMqGdMr^dMwP>9e^>9Bb3>9Cb3dMppdMsadMrcf3wKf3t?f3qxf3u4f3qGf3r^f3wPf3pp
   ,Xb3f3rceawKeat?eaqxeau4eaqGear^eawPeappeasaearcf0wKf0t?f0qxf0u4f0qGf0r^f0wPf0ppf07e^f0saf08e^f0
   9eObXeObX:ZbkeObk:Zc$eOc$:ZcAeOcReOcR:ZcRBeOcRCeOcweOcw:ZcwBeOdMeOf3eOf3:Zf3BeOf3CeOeaeOf0eOwLeO
   wLe^pl0BeOpleOh[eOu2eOkyeOr[eOr[:ZkzeOu3eOqCeOqDeOqEeOlqeOo9eOv>eOkMeOtAeOtAe^h[6eOs]eOr]eOnFeOm
   ~eOfVeOfLeOqFeOdIeOf=eOf=:Zf&eOgbeOh]eOjQeOqyeOmQeOn!eOu5eOqzeOnjeOjReOnkeOl1eOlreOpmeOjpeOh^eOo
   :eOu6eOoeeOdaeOixeOk|eOlDeOu7eOyneOyoeO!EeOpneOypeO!FeOpoeOnGeO*,eOv?eOo;eOmReOvAeOu8eOraeOlEeOw
   QeOeKeOrbeOtBeOlZeOtCeOu9eOm4eOu:eOu;eOxTeOk*eOs^eO!IeOofeOhaeOq|eOtDeOyreOiyeOvBeOxUeOnleTbXeTb
   keTc$eTc$e^2c$BeTcAeTcReTcweTdMeTf3eTf3e^2eaeTf0eTf0e^lq0eTpleTh[eTu2eTkyeTr[eTr[e^2kzeTkze^lq7e
   TqCeTqDeTqEeTlqeTo9eTv>eTkMeTtAeTwMeTs]eTs]e^o98eTnFeTm~eTfVeTfLeTqFeTdIeTf=eTf&eTgbeTh]eTjQeTqy
   eTmQeTn!eTu5eTqzeTnjeTjReTnkeTl1eTlreTpmeTjpeTh^eTo:eTu6eToeeTdaeTixeTk|eTlDeTu7eTyneTyoeT!EeTpn
   eTypeT!FeTpoeTpoe^2nGeT*,eTv?eTo;eTmReTvAeTu8eTraeTlEeTwQeTeKeTrbeTtBeTlZeTtCeTu9eTm4eTu:eTu;eTx
   TeTk*eTs^eTs^e^nF0eTofeThaeTq|eTtDeTtDe^nF5eTiyeTvBeTxUeTnleTnle^3bXoNbkoNc$oNcAoNcRoNcwoNdMoNf3
   oNeaoNf0oNf0e^fVwKfVt?fVqxfVu4fVqGfVr^fVwPfVppfVsafVrcfLwKfLt?fLqxfLu4fLqGfLr^fLwPfLppfLsafLrcfL
   9e^3m~oNfVoNfLe^3fLBoNfLCoNqFoNdIoNf=oNf&oNf&e^3f&BoNf&CoNgboNh]oNjQb3dIwKdIt?dIqxdIu4dIqGdIr^dI
   wPdIppdIsadIrcf=wKf=t?f=qxf=u4f=qGf=5oNdab3f=ppf=saf=rcf=9e^f&wKf&t?f&qxf&u4f&qGf&4e^f&r^f&wPf&p
   pf&saf&8e^f&rcgbwKgbt?gb1e^gbqxgbu4gbqGgbr^gbwPgb7oNeKb3gbrch]wKh]t?h]1e^h]qxh]3xnlJ_bNb3h]3e^h]
   qGh]r^h]wPh]6e^h]pph]sah]rcjQwKjQ1oNhab3jQ3dJcVb3jQqGjQ5oNiyb3jQppjQsajQ9etbXetbketc$etcAetcRetc
   wetdMetf3eteaetf0etwLbog)zEoO$PdXa4AmQ0hKg,etpleth[etu2etkyetr[etkzetu3etqCetqDetqEetlqeto9etv>e
   tkMettAetwMets]etr]etnFetm~etfVetfLetqFetdIetf=etf&etgbeth]etjQetqyetmQetn!etu5etqzetnjetjRetnke
   tl1etlretpmetpme^4jpeth^eto:etu6etoeetdaetixetixe^4k|etlDetu7etynetyoet!Eetpnetypet!FetpoetnGet*
   ,etv?eto;etmRetvAetu8etraetlEetwQeteKetrbettBetlZettCetu9etm4etu:etu;etxTetk*ets^et!Ietofethaetq
   |ettDetyretiyet9pp5bk.ic$.icA.icR.icw.idM.if3.iea.if0b3jpwKjpt?5h[b3jpu4jpqGjpr^jpwPjpppjpsajprc
   h^wKh^t?h^qxh^u4h^qGh^r^h^wPh^pph^sah^rc5m~(Rkz0f[cXbgb0P^s-AzfvJb*MvHfwBfqb*Fn~b5bpvH:.ibc%nnfq
   Ej;Iib:1aqd7AbpvHkWUacb)<Kd%%ZbpvHxwxmb)aac2zdcDJbUb5zdcDl]:.ibc%nnfqEaKnqib:1=?:1nn+rpEer:1=Ac(
   bjbIc%Vs~d<adeBjDMVtbj$cXtVbLYcXcriBQ%;~>hMTNDr>K%VbUeBbjcWvJacZs|fsauys!nb$KgMcr].bp%5=?EhMPfxk
   OjDiPtbaZjDPcXb)jDr($Ftb+OZbLbp(ea8nshpQcDjDiPtbg)H+*N].cDbDaqh|kjnndnkj=SJatNDb=<EOatuF<DrGaqib
   amaZnmc|xwu>Pcfa8bIc%K%;crIk+PbMd%(7dfa8d(Adfd)a[JcXd%(eb=WtZbIacYzW+Oc2c(GtbcfeviQ<EOat(ekWbgfs
   =Cb+bRbNa8j+evc=Qd)O<Eau=pcfkWIb9oy].kWOQcDb)!ZYbgcrYaibpjdhMnmQ&CabjDNcIabjD=Zdzc:$gtZbIEb%crJ|
   PBad(;Nc3Td%tbacd)gD&CcXcrb)+rbIc%cr(;cI(4n4bWb+Lqaaccrysd<i[QdK^s!CcDb)<Kd%Uerc%nn+rb%iz.^TbjLa
   tcDTs|d<i[er[ay1fqc%kBb=b9syi[abjDcIMfxEi]bUcgFUamaZnmsii2cDb)!ZrocXcraorgkDb=O(4hwcDpAaqiPb=iPt
   bc%fxaid%UcDb%izb)tGNpAQkWb=nmQTvtvHc*b=nm<ExWbpi[gk+OmZcDTs|~>uFQfwHb=iPac~>Ys~wgadjDhbbgr3s|lM
   KaababpVbd$gb=|9bjW(7cfd)gk+*bD|Pb=Q$giQQa>iAsybRcgQd)UsyBb=bNd<a[aogXcrcgEbIb+PbLd=|Pb=b$cWvIcf
   jcs~d<BiQ<Dhnb+hMA(~bIcDJtbac>?og])r6lMd=cXcrSzGaqgPQlMatdK^sd4zfvJb*bI:1r>xmYbgj8c(KiQQ$gaccrDt
   bi<b+cWcIQfwg?jDMc7EdAcffwBeybUrobhbpKhbysbp=ScrpEbpxWd<Bs|fxIbNgXcranMBvti[AbYfWB&1-Talb+hMb)tb
   dffw%6~>cI<Dhp$AatjDNZs|d<j5oyb!(7zGxWkBb=QevhbysvZaqb!UXcrbau>bDkOjDNogEQd%aihKhpb+eBAcflMluAac
   cDYcXr3s~crvdl+<DbIe]tbaZbUNbD=Alua[fsaud<p<bNgXd<nndnyscrTvmBwq(es~$gbgjcUoyD(ecrSr>b)ysdLhgr3t
   bdfzGvDjDRqapA(~i2d%$*AdfcreB<?cWatcre7EizKcf$gbjbIEb%d<j5Ac%fsbjKgMcrJcXlMatj8bMlMluE+OSatcrhce
   vz.cDcIabjDNSbLcrqda8bIcDb%izcgr>wTkWuH<DkFvHd<BbUbI:1kjBad(;hMb!UXd<Bs~evs|d<i[A:.bPcfa8hpnu(4J
   s~d<+rg9jDb)<*ev(Wb(o=Fbraew^cWyscrysa8c+QfxaafxtZbxcJP^s-Dbpj5b~WaucrJm+vHcrJ+rc+izNJ(ecrb)izcW
   d=[QoyYcXj8(7aclMKbLkWizcW()evtbcfM=Sd%(ekW+*N,fd)w^Kcfa8cgc%bIb+vJatd)aud<F(ecrDs~a8%iaZm+(etVU
   nmQkBaccrJtbc%~><?Mj5jDcWhMbNd%+;bG=AKc3b+Fb=Ftb+ObesyGbAFbg!n(7dfcrDa[d<a[m+nn=SfxUgMd<nnfqsyFb
   ~Lbgcrb%Edfd<i[r=c|+Oc3Td%tbacd)gDa8hpnuQevs|*d(~bxEizcWhMnm<EF+*Nb%Ecf~>Pfxkdfxb=bDoyhpb+r6lMd=
   |PbRizcWGc|tZhpatfxaua8hpbdcrqdcrTs|d)UjDKbL$gs~lMK+rpEgDd<=SevU(4Sbgd%=Sa8bIacJcf$gau!nbglMluat
   crb)gMcrogEQfwH+*Kbj,nce,hwhb+iB(4(;bNbUaXEizbVEizMd)kfMbjb)IbUb)s~evc3oybjb)qabxb+g4oybUb)OQfxU
   <EVbd<tQjGac$AbC]mcrTkfMi[Aq$d3d)ysjcAe4^s-b*NwTd%scd<Bs|fsaur3at<ta[&C.Qat*d(4b)z.crDbLfxUjDbDM
   lM;2Ps~j8Ub~b!b+cWGtbcf&CcXd%(0vJbdfsatcrb)+rcWbda8bIc%lMhMXlMO(4b)w^bNMnnr>Js~fxEc%d)A=Alub9syn
   naqiPs~lMhMAc%crpAc%Lm+au<tgD$grgizNbaQwhaccDTs|a8kFfxbgcr|Haf:c)QlMluAi]Ab*rocXkB+riP=Sd%UjDY+*
   Pb~pEbIb+hMjDeBAacd%b=nmQr3+*Ws~wgcXfxbjbDysfwbG[Qb+cWb=algMkWb=nm<EnnzGc7oygB(4!Qfwc7Td%bgev<Kk
   BaucrmZbYaXAbJkBaid<Fb=(4iGQfxfqE<DhpEQ!n(7c%jcw^nns~lMKbMevcfa8bIb+cWcIcXbUGbOTjcr>Tbgfx(ekBs|$
   g+*NmZgqulcrZU<Dikd<+rFU+OjDg9jDiP+*Fnsm+*JuFyslMKbgevgMfxI+O].kBtbcf$gbM&CbyEbdaXjcUbYa|jcatcre
   7b+aqiBQoFbUb(Q&CbyLbBaYwhaqbD(4|Hbpkgc9%AkW<*kBs~lMUjDhpAtZfCQafWg*Mb.k1fNa8hpQkBbLevs~fxs~cre7
   b*Ec=bCfxw^Ww^hnb+bWb+LvtbUalUX*db+cW(7cflMaqb)b~b)OQjcnsaldvYcraqPbUb8Qevq,zG=?Qd%b=evm+a[zkjcy
   sfwHatdK^s-Fe]aqbjKbjizalb+bDoy(;l^bNbUbNizbVEizbDr>c2r>pAc%d<d)kfb)IbUb%tVUXevc3y1+OUjDNqaogjDf
   CQkWbjfgNn4Ps~crbxb+Ww^g4b+RqabUalUXevaclMKc|ac$gaqb)b~uFjDFatj8aq<9b8Qevq,BacjGzGkjq,i[aq|>evsd
   ScXBaqVuHQ(R7f&gxb,b0Tr8bqslMg*e|dsa^a^cvbqyxbqbGbSc2bqbCbfdAn$axf6uTc%^pdKs!bSbSb,gEbqf7.Em%a^s
   ubSuEh7*obqbN*^K(RlE8kK(ReK2$shqc(ptb0OZe~Ce~Qe~Xb3Zb3Cb3Qb3bnVZesCesQesbn!Kd0Cd0Qd0bnd+a2buoCQo
   Cbn]3fkCfkQfkXb3WZb3WCb3WQb3WbnUd+fkbufk<*fkyve6zfa2qkuHbn!&uHZb^WbnuHCfk!KfkEQfk%4UI]3fkI,sfkIU
   QfkIxiMZcYCcYQcY|6jmGr8k]e1We4)MPkHmcf,=3uDHT$KzCf,bzb)g[&.fJbzHeciT$$nSdsbzbCa^gB(R8pnkK(Rk*0f[
   [RhKl$Hb0=9bUk+b!jckjBb+mZb+d=e<DfpzWibe<Jb~Hc|e<siZb~nnbjanfmb+UWbjT$DaqVbjc3aafxaqWc)u>aqb~(0b
   jizb+I(R9h[cEt:f|x!a9bma9*Aa9bm-*AnQ-bmddoZ(Rha8ezAbGWHojMjd_eH_dAEB]p*6ev($~=VvZblvZUVevblevUV]
   pB]pVvZ($vZIVevg$Bevg$VvZWBvZWVevUfWevUckev%:ev(,eve0B~=ckvZBvZVevWBevWVvZfWvZckcEqS^<l$qa,0bjb(
   bjbGqab(bjb9qacIbjQbGbjcgbjHb(bjbIbjihqaihbjHd7bje?bGqaqTbjd7Ub^+<Abjpqbfi^bYg*c*blhriadASh(bGmY
   eBcX<xat<ybgc^(rcQb4a]ath*b)fWbYrgBfmg*_h:(~cQb4a]e0[Shnc%oDc3c%cDTjuViDc9h*OmYFkNBa8cQSq$*6a8bV
   EJafUfWa8cQb4Nh$aq($khcXoDAcCfmg*c*S(,,~GaWq|jg;haWq|p&bEt3%?i8Szk_lVSd<ci:2*Fi8zkboci:2Sd%bNL:2
   SaWq|rDc^(rcQb4[roDfCb~Hc+a9t5lYtc.fWJ_qTJ%PNblcrQaea8l~BcrpEJb^Vd%XbOEJbYrgVa8bVEJc*b!EBwhbjjJd
   <cCfmg*wbIb4efN*IcD*Ik1UcX$Eg$Jh*XW]6bCWmYPbl_c2WBh)alb4Td9aWq|:CcEuEc,$Erg((c3g)a>c+z&b(U((XfCO
   qJg$a>bGW((g9dna>iuJh*SfWotbGBh(bG[Sh;a>l$((%5((cgJh*SWBh(WMa>VWJ!ugbu7a!dvvFAf5RaamCMd)r3j8b^ao
   bjZevPfxd%fwjca8zWa8wpkCBfmry(<Lm<%PPcrffXhWqPoyjGqP+5Yi7Md)r3j8b^aobjZevPfxd%fwjca8zWa8wpkCBfmr
   y(<Lm<%PPcrffXhWqPoyjGqP+5YkK)Z|j]ge8hy:w|Sf^F:wx2l(;ld0aygrbEd;gra*f.m[xAjl;gy2!*$JbtIl$%I,BceH
   !ujQh^gxe0Ob0P>omZbye4uD)Vbz&TbpnSfPfPF$Ka^mZc*~pd5Tg;f,f,bzmZcDlx&TcDf,Nf,NbzuDLe1LbzLHm!LbzDLb
   zw]HYdsLHe1KfJa^mZe]vcvcGr8r8bz&Tzf=3XfJbziPbzTb|dslI)Mrobz<H&4bzmZc*n4kcbzaljlbQ<Hpb~xb)&.&4a^m
   Zc*Sf2jHjHSjHZjHZSa^&TeNZjHZe1lISe1We^He+kHbNc^xlkcxlTaxj6axRbxaWtDp*epbYqS^<+dfzePd7vO|iep(xnq^
   hoqjlbQw$b.b^Snq^hnc*yaqu<e<r;c(oF(0<MWkCtZj$qPEffjXaqhLa8Ic(a8Ib~<,IjXbjb.ryUaqUr;Uc(a8kfuHbUhg
   sr(;jDAizaZRa9oJara8aZa9oJar+5EbUAbjOqalM*cdia8hpbUdiqPaZr3Wa8aetUaqhAG*cIaWtDf05?sc.a3nrb3bAe8e
   9ePTdPc6|le&|le.|leg|lfv|li?|lm|oqjlbQTdPbin^c6n^e.n^egn^fvn^m|!umQlEhqc(!Z,e&>a%Nl|Ua$f6i0bCd;b
   !m;a3,ef(<Wcoadd*afxXbR%9!umQhaa!h6cfd7bV.]xA$+b.dXbY>?bGYcLbXf=2hqc(!Zp=b6iVb7j.b7jYb7kpb7k5b7i
   Wb7jZb7jgb7lhb7kqb7l>b7kYb7o0b7mhb7l?b7j|b7mib7nZb7p&b7k6b7o1b7oSb7oTb7n:b7pVb7pWb7rDb7n[b7pXb7q
   .b7p*b7t&b7q0b7t(b7x%b7qeb7t)b7vxb7x&b7p[b7cRxRcRxScRwNcRwOyDb7tkb7cRyqcR!HcR%.p,b7cwxRcwxScwwNc
   wwOcw!Dcw!Gcwyqcw!Hcw%.dMymdMxRdMxSdMwNdMwOdM!DdM!GdMyqdM!HdM%.f3ymf3xRf3xSf3wNf3wOf3!Df3!Gf3yq,
   Xb7f3%.eaymeaxReaxSeawNeawOea!Dea!Geayqea!Hea%.f0ymf0xRf0xSf0wNf0wOf0!Df0!Gf0yqf0!Hf09ehbXehbkeh
   c$ehcAehcRehcwehdMehf3eheaehf0ehwLehplehh[ehu2ehkyehr[ehkzehu3ehqCehqDehqEehlqeho9ehv>ehkMehtAeh
   wMehs]ehr]ehnFehm~ehfVehfLehqFehdIehf=ehf&ehgbehh]ehjQehqyehmQehn!ehu5ehqzehnjehjRehnkehl1ehlreh
   pmehjpehh^eho:ehu6ehoeehdaehixehk|ehlDehu7ehynehyoeh!Eehpnehypeh!FehpoehnGeh*,ehv?eho;ehmRehvAeh
   u8ehraehlEehwQeheKehrbehtBehlZehtCehu9ehm4ehu:ehu;ehxTehk*ehs^eh!Iehofehhaehq|ehtDehyrehiyehvBeh
   xUehnleibXeibkeic$eicAeicReicweidMeif3eieaeif0eiwLeipleih[eiu2eikyeir[eikzeiu3eiqCeiqDeiqEeilqei
   o9eiv>eikMeitAeiwMeis]eir]einFeim~eifVeifLeiqFeidIeif=eif&eigbeih]eijQeiqyeimQein!eiu5eiqzeinjei
   jReinkeil1eilreipmeijpeih^eio:eiu6eioeeidaeiixeik|eilDeiu7eiyneiyoei!Eeipneiypei!FeipoeinGei*,ei
   v?eio;eimReivAeiu8eiraeilEeiwQeieKeirbeitBeilZeitCeiu9eim4eiu:eiu;eixTeik*eis^ei!Ieiofeihaeiq|ei
   tDeiyreiiyeivBeixUeinlpSbXpSbkpSc$pScApScRpScwpSdMpSf3pSeapSf0b7fVymfVxRfVxSfVwNfVwOfV!DfV!GfVyq
   fV!HfV%.fLymfLxRfLxSfLwNfLwOfL!DfL!GfLyqfL!HfL9pSm~pSfVpSfLpSqFpSdIpSf=pSf&pSgbpSh]pSjQb7dIymdIx
   RdIxSdIwNdIwOdI!DdI!GdIyqdI!HdI%.f=ymf=xRf=xSf=wNf=wOf=5pSdab7f=yqf=!Hf=%.f&ymf&xRf&xSf&wNf&wOf&
   !Df&!Gf&yqf&!Hf&%.gbymgbxRgbxSgbwNgbwOgb!Dgb!Ggb7pSeKb7gb%.h]ymh]xRh]xSh]wNh]wOh]!Dh]!Gh]yqh]!Hh
   ]%.jQymjQ1pShab7jQwNjQwOjQ5pSiyb7jQyqjQ!HjQ9ejbXejbkejc$ejcAejcRejcwejdMejf3ejeaejf0ejwLejplejh[
   eju2ejkyejr[ejkzeju3ejqCejqDejqEejlqejo9ejv>ejkMejtAejwMejs]ejr]ejnFejm~ejfVejfLejqFejdIejf=ejf&
   ejgbejh]ejjQejqyejmQejn!eju5ejqzejnjejjRejnkejl1ejlrejpmejjpejh^ejo:eju6ejoeejdaejixejk|ejlDeju7
   ejynejyoej!Eejpnejypej!FejpoejnGej*,ejv?ejo;ejmRejvAeju8ejraejlEejwQejeKejrbejtBejlZejtCeju9ejm4
   eju:eju;ejxTejk*ejs^ej!Iejofejhaejq|ejtDejyrejiyejvBejxUejnlfAbXfAbkfAc$fAcAfAcRfAcwfAdMfAf3fAea
   fAf0fAwLfAplfAh[fAu2fAkyfAr[fAkzfAu3fAqCfAqDfAqEfAlqfAo9fAv>fAkMfAtAfAwMfAs]fAr]fAnFfAm~fAfVfAfL
   fAqFfAdIfAf=fAf&fAgbfAh]fAjQfAqyfAmQfAn!fAu5fAqzfAnjfAjRfAnkfAl1fAlrfApmfAjpfAh^fAo:fAu6fAoefAda
   fAixfAk|fAlDb7daymdaxRdaxSdawNdawOda!Dda!Gtrb7s<b7da9fAv?fAo;fAmRfAvAfAu8fArafAlEfAwQfAeKfArbfAt
   BfAlZfAtCfAu9fAm4fAu:fAu;fAxTfAk*fAs^fA!IfAoffAhafAq|fAtDfAyrfAiyfAvBfAxUfAnlekbXekbkekc$ekcAekc
   RekcwekdMekf3ekeaekf0ekwLekplekh[eku2ekkyekr[ekkzeku3ekqCekqDekqEeklqeko9ekv>ekkMektAekwMeks]ekr
   ]eknFekm~ekfVekfLekqFekdIekf=ekf&ekgbekh]ekjQekqyekmQekn!eku5ekqzeknjekjReknkekl1eklrekpmekjpekh
   ^eko:eku6ekoeekdaekixekk|eklDeku7ekynekyoek!Eekpnekypek!FekpoeknGek*,ekv?eko;ekmRekvAeku8ekraekl
   EekwQekeKekrbektBeklZektCeku9ekm4eku:eku;ekxTekk*eks^ek!Iekofekhaekq|ektDekyrekiyekvBekxUeknlgVb
   XgVbkgVc$gVcAgVcRgVcwgVdMgVf3gVeagVf0gVwLgVplgVh[gVu2gVkygVr[gVkzgVu3gVqCgVqDgVqEgVlqgVo9gVv>gVk
   MgVtAgVwMgVs]gVr]gVnFgVm~gVfVgVfLgVqFgVdIgVf=gVf&gVgbgVh]gVjQgVqygVmQgVn!gVu5gVqzgVnjgVjRgVnkgVl
   1gVlrgVpmgVjpgVh^gVo:gVu6gVoegVdagVixgVk|gVlDgVu7gVyngVyogV!EgVpngVypgV!FgVpogVnGi,cwlE]Nb0mVNad
   x!c6n^e&n^e.n^egi,cwlZn^i?n^m|crdnaYd+bQTdPbi)Tc6)Te&)Te.)Tegi,cws^)Ti?)Tm|i,cwhaa2n1lTcl&Bl+b0n
   1lTc3m]awAael+oMbib3c6b3e&b3-WbSIbioCc6oCe&oCe.fkbifkc6fke&fke.fkegd0c6d0e&d0e.d0egd0fve~bie~c6e
   ~e&l)bil)c6l)e&l)e.l)egl)fvl)i?l)m|l)pkl)bi0l)bi1l)-KaxgPbiqjc6qje&qje.qjegqjfvqji?qjm|&2bi&2c6&
   2e&&2e.&2eg&2fv&2i?a2dAy<dAyAdAzqdA&6dAega2dAfvdZObidZOc6dZOe&dZqLKbqptbis:c6s:e&s:e.s:egs:fvs:i
   ?s:m|.0y<b%yAb%zqb%&6b%eg.0fv&(bi&(c6&(e&&(e.&(eg&(fv&(i?&(m|l(bil(c6l(e&l(e.l(eg&&bi&&c6&&e&&&e
   .&&eg&&fv&&i?a2bDy<bDyAbDzqbDe.uSbiuSc6uSe&uSe.uSeguSfvuSi?d1Ubid1Uc6d1Ue&d1Ue.d1<JTbSbxy<bxyAbx
   zqbx&6bxeg*^fv*^i?*^m|*^pk+Tbi+Tc6+Te&+Te.+Teg+Tfvd1qLh%d7bi%gc6%ge&%ge.%geg%gfv%gi?%gm|%gpk.obi
   .oc6.oe&.oe..oeg.ofv.oi?bEuATjIUbiknc6kne&(ibi(ic6(ie&(ie.(ieg(ifv(i-rk.pbi.pc6.pe&.pe..pegqObiq
   Oc6qOe&qOe.qOegqOfvqOi?qOm|qOpkqObi0qObi1:Tbi:Tc6:Te&:Te.:Teg:Tfv:Ti?e+Ubie+Uc6e+UzqbOy<bOyAbOzq
   bO&6bOeg.2fv.2i?*ay<c9yAc9zqc9&6c9eg*afv*ai?*am|uTbiuTc6uTe&uTe.uTeguTfvuTi?)5bi)5c6)5e&)5e.)5eg
   )5fv)5i?cYUbicYUc6cYUe&cYU&6bVy<bVyAbV-hxe(bilBc6lBe&lBe.lBeglBfvpzbipzc6pze&pze.pzegpz-slhpy<hp
   yAhpzqhp&6fCy<fCyAfCzqfC&6fCega2fCfv*[y<b9yAb9zqb9&6bNy<bNyAbNzqbN&6bNeg.1fv.1i?:lbi:lc6:le&:le.
   :leg:lfvoqbioqc6oqe&oqe.pybipyc6pye&pye.pyegpyfva2c|y<c|yAc|zqc|&6c|egfDIbifDIc6fDIe&fDIe.fDIega
   2c0y<c0yAc0zqc0e.:ibi:ic6:ie&:ie.:ieg:ifv:ii?bE-g9-e(bibE-g9-e(c6a!&Bl+b0&TagU]Nb0&TkhbUYb+WUi,f
   0r]a!&Bl++cagbU!^nui,f0l1]N+cagbU!^<MNi,f&pnuMbMb8glb0g1bnPa2cJFdZh7e|d8escxfTdKcDd8afddcDdZbpfT
   aftTc^b8adit,cdZKc^b8lfJe+Lh7HfTHcYbEkAc^cYcDbEbpa3Ja2b4JcYsva4Na4((hEaavib>v+SsvaEe9cYaf<la3J.6
   a3McD<lbpa4Ja3b4JkAafsvcrhra2b4TiDfxiDd1afa9RfDfDHfDe2a2b4Nd<dZe2afa4Ga2b4KiDa2f2b8adceWe~s!b3Ob
   fbqaxIax!&bqUbql2Sb8addJHfT%]hL_%rb8addJaxqkbqpwbfb=opWfkcDa2qk]4j+adhLfkHc^b8lfbfg$He~We~bfWm%b
   Ssjc0bqnuWbEdng%bjb~bUa^d?NzEadb^Mc^b8lftZr;a[a2hZbpi,gblEa*gj|$f%duq$Ce5a4*A%Oa3$?d&a4*Aa4f|a3%
   sbCara9)O,(c.d%c(awa8mAa8b*e!a9*=Tc(awi,gbha~)sIa9TcVfwsza9fBa8bT~Qfsr:Wckb+d&i,h]ea]esIa9TcVfws
   za9fBa8bT~Qfsr:Wckb+d&a8cSi,h]qEepce:]a**mbPimEcF*WdXtupGaa[z|[tRhzb>iY=Wb0fN,iz6dEaaUs.cPafbxPa
   3bMi,8h^8z2NcXacrobYl9b.dXdBudZancDd+rkafe];^<RfYa=a:,0bDa:GudZancDd+rka;a:Sf$gQa:rm[EEa;a:VnvcN
   Oa:rm[EwUe]c9d:Lata=a<VnvcNb~GudZancDd+rkafe];^_k3c.a=a:,0bDa:GudZancDd+rka;a:Sf$gQa:rm[EEa;a:Vn
   vcNOa:rm[EwUe]c9d:Lata=a<VnvcNb~,0bDafe];^a:rm[Eb+bbjVdzbpaY[Eb+c=;PwUe];^a>bbjV[vVnvcNOafe];^d<
   aY[EEcajV[vGudZanoknvcNb~o?b8a8n~b9V[vaoyxfgBasZeyaqgRcbaq:7bJTk+Lat;2bMtocIbCk+o?VcNd)rkBaqb9Zb
   !;2gAiR<RfYi,8ix6d1a[aYe2c(=Mbpvldz.=usb8z;q&usb8|ReNc)aZiRcIa9bebVbbd3NffgDb!bCk+:7?$IeLj]d&kIb
   +?$cIa>c=Lto%:b(bCKb~Sas[ycgmkiRk+iBbCk+;ycf[yIax%sbCcU:Eatcfa3i^zXvQevgAZg1eXc*a[aYe2c(b*$%g]gZ
   bNZ|nw~ijam|)c6!n|)e&<ualg8cmrEevgAZe<^ci,u;eai~s|b*KgAgd]md:YdKabgkkUd8VhKVpGe;NjLyMbCeC.GrvKr2
   bdaisfb4[y!Qa2d?Euxk+gQ:8zve1bbbdaipto&as[ycgmkiRKj!e;hpbbKe4aYKjHau|Ue1Gf6blbClGboasZffaod:Yd<v
   lrod)useqd%q&useqesb9d:<0qb*HfgMvltoS[)Tq&[)K,Ll$cgqb*HcgiCvl)<hr&hcgh*q&&he1cHeNau|Ue1j[bCe;hpb
   bKdsaZxWSfyh;Ib8a2?$Ka^:7?$Im(cIbVY,0bpvltoS[)Tq&[)aoyxe1bebVbbd3roe]yMbCc^cIbVY,0e],Ll$cgaf[)Ky
   MbCacE:8gltoK,Ll$cg(=yxfg;yvGe;)<qb*Hcghr&hw(gQ:8zvcgh(,Ll$e1Sb8Zco<,b4*K<OffgBKgAiBb+b4K;^dZgAZ
   g1^cddaify%:YLjHbVYj6f2bDdOaqb4*K<OYh(;^a?*K<OkgdkK;^vSeNau<OffgBKgAbDw(b4*K<Offb4^catjwVbgcgeNa
   uYbrcudk*K<OkgIhhD?$Ic%a2c=LvJc+ZMYc^bDTcgrF:8zve1=eb(qb*HfgMvldzaoyxfgK$XVeyaqc=LbM,mto=ztogQ:8
   gltoK,L=ztoKyMbCacE:8gltoaoyxcgbygMto;yvGe;to;yvGe;NcN$XVeyaq;yvGe;N=hto;yvGe;)<e],Ll$cga9;yvGe;
   N=hto[h)<o&+&*K|Ucga;[h=hto[hto[h=hd7w(j]cHeNau|Ufg[hcN$Xl$w(=zd7e1bVbClGa8=zroev,LcQYev,L=zroev
   yMbCacE:8glNm:=eb(c*RcgSdiy.tolHcgS=htolHcg,p=eLd7e1d9cN.Q[)Tq&[)KgAgdOl$cgaf&hcga9K,Ll$w(gQ:8zv
   e1=eb(e]gAgdOl$w(=z)<gFj+)<o&+&*K|UcgaB[h=h)<gFj+)<gFj+=h)<v^cHeNau|UcggFj+cN$Xl$cgaE=z)<h*Rcgl!
   fyUbRShx%:wvbSDgRf,c%Ke4Agdi,8eK4f[YZe5ss>hf!byb%<9c2b!<+d?oUacbUO<Ne0dJKvHailGa[*he?bUe%Ee0dJKv
   HailGa[*he?bUcIa]c5aod)i1bIaoKbUhbgkkUlGbU!cKbNh|*he?zWalbIz(a8audjctlsvHailGa[a9;zb~bxaXIr=nT=X
   $wc<z&bae?bUSYgQVgwa]aiaqf6aek3$ia9GzMn~eQcnqQcXcin~VhUffc5k3$ia9<7bIa9<7=Xptju=Xhb<.a[d).mb,b4t
   abex=O<Ne0tK$ia9e%Ee0*=taqHgwtaa]c%r=y.gwalVgwnqdn$6$id%aadNgwadbrbNbC|Jb!|JS]<G$6$ia>bVbDaf.mb,
   bjOi1adc5$6$ia8a]c%aqaXe(bUDYb~eGaqbxb|aZr=b9ao=Xaudjct;zO?fF=,hK$ia8g*jr=,wq;+k3$ivZbDl$c*;+a[f
   xEb(bbn~eQ+1a[eva[bxVgw(falV$6$ijGau|JhbA|MS$6$ia9hbgkkUlGjXbCc)aacradaqg4bD(5Ka[bxV$6a|,l]2n~=f
   h4c5=XGfZa]c5=Xc5a[rF,lf6aea[a9O<N<+g4bDz(evdQbR(5g4bDbbcNdQbR(5Kb9aoMcNdQbR(5g4b(bba[?f<7bIbDrF
   ct.Ga:<7gwYeQ<9$wc<b4gQ,l$wc<IafrtbeSMd9kBPasb,zWb9aoe(lcasb,n~Eb(FfZqQcXcim+lGfZ_c5n~e%Ee0rF,ln
   qdnbIa9eQ+1n~ataYn~%X<5ataqeqG|JhbgkkUIgPrF,lhbA|M(5Eaha[byx||M(5KYc+(5%X<5cNYc+(5]2a[?flsbb.NTa
   [d)]<GbI?fSi1gw(falVbI?fdfg)aZgwb!c5bI?fXbha[e]y.gw]2bdb%+1n~eQbRzZeqG|J]2OeqG|J]2bdx||M(5eQ+1bd
   x||M(5]2d9]<GgweQ+1d9]<GgwGzMd9rta]cfn~eRd9rta]cfa[a9Eahn~Oi1adc5bI?f>YaoS>Fdjia;zb~f7$6aub8bLa8
   f7b4cItKta=0vZbDpvgwacanvHa[kBFace]briaadb~*HV+$evy.$6adb~banL_$ia9Kb9aobIa>a|iagQ,ltaqHgwau<9ba
   e?bUeGe?bUbxlHauLzWasa[c5!ng*$6acOb4bCfZdQjwYctbCfZa[a?eGa[a?bxb|sta>g*x^Ob4bCfZO+;zMa[rFctadiah
   bkQaeMack3abc5ahxVbex=dhzMa[a>hbkQaeMack3abc5ahAe]vuaK.GaEbex=lHaezMn~eRn~g*IbaeRn~baeRa[b^GdiIh
   hc+_eRdkeROahdkeRdkbVeGdcbVb%gFzMdkGasmUahdkc=c+dBzMm+abdObNAqbiBb4<.d9aAa|Ia?beYahd9aAa|Ia?lHai
   d9a>eGvH<1a>|>abiBb4<.d9aF*jcfd9aAa?PnVId9a8c5gke0vTb8Ub4<.xbTd9a:$wc<bUFadzAs+bxz+vH<1iCa[f1a[<
   1*hvH<1d<abdObNhKe%Yb4<.d9a?*CiBe%nva?PnVx]b4|>lPd9fwhzMlGa[cD_aub8bLaEbaPb8bLa8acabjub4cIIcm=,h
   KcQbjg*jra[n~g*jr=,a[jc=,hK$i(?YahdQvSbCdQ*hbra[IgPbyxVNaddcd7Ob4<.d9*hbra[IgP(>a?l!Lbhk3babra[a
   [*hbra[IgP_dAaEZO*i<2vuaK.GiCaYgkk3bCj+hKbavH<1aKr(f1a[<1jcHTud^>Lbhk3bCj+hKl$h|jca]ud^>Lbhk3bCj
   +Aaf]<bRh)acadb~bCb,AeNYGd9h(kUa[hrPhUbUF=,hKIkhhns+|>abaoMashAa>acabr(x]b4%XvH<+Yhns+lHaig*ashA
   a9baEh|a>|>abaoMashAa>auc+itYctanbecIbDa?r($P>Fbxb|.Ba?dheJ>F;za?lHaeeJ>FcNiBnPhns+auc+itfCa?r($
   P>Fbxb|.Ba?dheJ>F;za?lHaeeJ>FcNTb~GfngP(>Eh|a>Yhnh|a8iGzZc+_auc+bplGbNaEbV*9dkbanLa>f7b!d9a9iUad
   h|aEbaiUdQaEeGiUdQaEbxz+iUdQa>abb!d9aEbaiUdQaEeGiUdQaEbxz+b%e(bjdheJbIdBG<uF*ImUb4Objbbaegwcbaor
   kbydccQe)d=*ha>dA.<Oh)zWnTbIbDrFctbV,pa:<7gw<7bIbDrFctKvua:<7bIa9Ky.bIa9GzMa[rFO>yp[a!>hf!iEfzla
   <na3e6a4rNa3mjara3k4cJe,alg4brc,%Ooqg4tEc4>4afg)NbSc2bYaubSb![f+2(+a^alg4brbQF=;bijc=;c6jc=;e&dd
   aZ=Xe9e|alhUdXcEAdjbBgn=Q$,hQ;~dP-laafbDu?]h-laa3:sla(I-la]j-laa3dx-kTaxdx-bbvMFje$2(I-bbiccxbYb
   ]a>gD.mhKaY(hi[b|g[bYb]a3Fa>gD.mhKaY(hi[b|dsm8bYb]bifmb]c6>y~;cYn]xf.yid!ebba2cH^?Pjcb(cJ,^b$upc
   PbEbrbBg%upcPgE^7_upcPa2k%x!^?Pa>FhDcEatMk3dHz6rrgD.mhKaYThC[Ra^bcaabaj*b%$6aYThC[Rmcn]!ebba3Wc9
   aXa3fRa3k%a3xCa3x2*no5-^Va3rK-c]*nlC_v0l3jWXxEeda3moa3pr_bn!Wb*~!edgyeLdDd1bNeUxEed_bMp3aEdDa>~F
   aEdDa>c.p3aEdDa>cPp3aEdDa>koc.p3aKdDlBa[xEedgyeLdDd1bNeU-oJxEed.$p3aEdDdKabmes+~!eda3cQf5.pbxedm
   ,bEivxEedcEr&ahxEedgyeLdDe|ale8Wc9aXxEa3fRa3k%a3xCa3x2*no5-^Va3rK-c]*nlC_v0xCcEl9+%(za9pCalbCGdj
   c(d%^Gb8bid%^Gb8c6d%^Gb8e&ddoLbQT^Gb8bid%^Gb8c6d%^Gb8e&cEl9b.bttPpBf(.!jcnVbijcnVc6jcnVe&jcnVe.j
   cnVegnxGaagqcXa3g,nxGzEaotFg,nxGaaafLbBa3g,nxGaa+Ab9b!a3g,cEl9b.$ed)bD&wbrb~hcgMb~*HCpqaoSiUq,zF
   brq,zFvulYbD&wvub^&wb1*H&wbrb~b8ida2^7g)r!brctupcPcEt:anaia8iMjcrEd)bVabdLg,rzc*jduHa9tsfTaaf4Za
   danc^blai.wdKhLbSbVlIbSf4TpNalgLacan]du=gLacancx=Qb*~!.Ma?NbSlHd1exa3tvd1ex.M*ea2!$gIbi(Mc6(Me&(
   Me.(Meg(Mfv(Mi?(Mm|(Mpk(Mbi0(Mbi1qObMj6aoMMaxgQBacz(MMaxq8afaoMM.Xf?wUpQcEt:cP_y3a9upg?r(bud)Nau
   byd+Zbubr.varaYdXa9^vfRbyaraYcxc+b|adan_upcP~K+Qd7cixgqdPa8a|uTXg*a^fBa^qlc5l(nKqlc5gyb+dDcYaag*
   aqdDl(Mg*aaxbgyb+dDddcCAgyb+dDa2cnd=n9hn;x!ebba9g*:K;xa3qlc5a3b!nKqlc5a3mVxba3b!Mg*aag*a^(zuFb4:
   KbwbgbYbgqbqYb*:K;xaKg*:K;xaK:K;x(>mVUbvbia8g*:KbwbgbYbgqbqYb*:K;xaKg*:K;xaQbamVUbvbiaQbamVUbvc6
   aQbamVUbve&cEb,yvf?GashLbYbYb]a9Fc^dFnWesbhGa^:7brcCcEc+%Bc^Cb>bucCcEc+bICcCd1asC|YdKas.OcCa8fec
   Ca3gLb>bucCd1asCcjUb4q&bM%WdKdjo%PbLCaoSdZfq,ubYbYb]a8q8=pCb+e6cDgDb+kE%Zvei^j8c9aXxEa9fRa8k%xE^
   D.$aKupxCxE^D.$aKbMjchDc,c^as$Basa[i,haiy(F_hG;nf!bizw>p+z$[gtfvgti?gtm|gtpkv*0v*1v*2v*3v*4v*5v*
   6v*7v*8v*9zw0zw1zw2zw3zw4$[0$[1$[2$[3$[4a*aabbm8awaY;nf!bizw+z$[gti?gtm|v*1v*2v*3v*4v*7v*8v*9zw3
   zw4zw5zw6zw7zw9>p0>p2>p6>p7>p8>p9+z0+z2+z3+z5+z7+z8+z9$[0$[1$[2$[3$[4)9v&$AzPp)b!Mb+bxz+b!Mb+Paw
   &ubV(F$AzPamg*bI>yh^0xqgl=|aYfuj<n0hc|j]ge8hy:w|Sf^F:wx2l(;ld0aygrbEd;gri,yrh^gx^0iYdJ$(a$dheJiY
   xockaceqa3Hbgad|keqxocktZHbgad|k*PTrAeJiYliddivj=)5f$a2ebbN*ldAdfb.d*cEdER*rcfYb3+wa2bd!2e|)]cUd
   QcJbehnCaod3naas(>bbasbv*]bJGo!axYgOFcj)Q<hu=dnzNaccf^hoq;s+JbDbw*aL%3z^a2c|ais.c<<:b.b3DV?ZalaX
   dnaxalb%bb?ZEdnaxh5YcEdEacbv<ibeAcQbBd8Uaodjorc(.XwRb%d3Eb|a2|Vq&Od(bvdKm5b.nwGhAcEjJacEb|dZaa.c
   cx&Gb.r2Rj$a]dKbB*vddiv)Qoqb%Do!ax^YlJw~lRoqSb5SaxmUb.pYbV;~o!m7ahSr2Oe8f?br)Q<iiAc%awdKAavNfT$*
   aYdd[tVjbNnaasagjbb.+Jbbowm:.yidd0j%aim:.rm:bamVi|pBcEo[<<cxUbHar)Qcx&GcUlObIb|b.b3&wbgUqYa2c%%z
   =tpBa2cGcJW|<c^r9s.xz*lbe~lidd8cbacs.y:Mb.d0XbGcCbvl(bJ?ZbbbdPdNy)bH)QcEatjUbvcEb8eBalddAciidb3h
   4b9Vf(cEatnL?Zk3$!bJ<$baF(nn]djg2bAbBs.c<Sahb.i,iyl1d!m7TcUb,i0.r(A&on0hcb4q6&opK~Yc*zOdX_kLa8gp
   hqzOdX_gGgpi,xUeaxq>Ycp_uz$a&nw=&na*(d$a&nw=%$>ys^4a8yi$~a*|V(dh<*&.9*&d.;Ubt>yiy6fmhW~ov?fw~ovA
   a8uB~owQcrye~otCygw=zzhW~oyrjc~ovB!>e$bXcwfxm<!%a*uzaf;U*&.9*&lLb9KTbB$ahCe$jZ1yje$jZ7a8wFw+yee$
   jg6wHkBe$lh4w=&na*&d$ahCe$kY3yje$kY8a8wyd<e$bkdIqPe$bkh]wHkBe$bkjRw=&na*uzcmb9KTbBh<*&.9*&d.&i$a
   &nw=&na2uzh<*&.9*&a2(dh<*&.9*&a2|V(dh<bt^$uXaED=$aEF%SaEHaE!OJ^%=%=&*ip~j;aEQ=(.=z;aE!Y]6W.>aE!a
   Za>b;bt^$uXaED=$aEF%SaEHaE!OJ^%=%=&*ip~j;aEQ=(.=z;aE!Y]6W.>aE!aZl6=+]$i3b?_&nw=&na*(d|hy8dkJe$cR
   k*a*uz$a(T=wxZ>qq3m^tmtm^2!Pr=nU^L[]qa[6u+~U],t.f!d)aegwbD|4+R.k~7vg*pBuDum(T=wxZ>qq3m^tmtm^2!Pr
   =nU^L[]qa[6u+~U],~,a9wh|4+R.k~7vge4ab=>[H;>d0eQcnf!a3t.a3[*a3cvr%tNa3nqa*(d$a(T=wxZ>qq3m^tmtm^2!
   Pr=nU^L[]qa[6u+~U],t.f!d)aegwbD|4+R.k~7vg*pBuDum(T=wxZ>qq3m^tmtm^2!Pr=nU^L[]qa[6u+~U],~,a9wh|4+R
   .k~7vge4ab=>[H;>d0eQcnf!a3t.a3[*a3cvr%tNa3nqa*|V(d$arWa>:6gF)4a>lR$4q3a>o?bDos$4t.a>noh(nUdc>ziC
   ~%e)Xdku+otdktNa>t.f!hry%<ye)nX]xdkbCdkeQa>&jd7Bl^umrWa>:6gF)4a>lR$4q3a>o?bDos$4t.a>noh(nUdc>ziC
   ~%e)Xdku+otdktNa>~,a?<ye)nX]xdkbCdkeQa>&jhb=>[H;>a8q3f!a9t.a9[*a9cv*=tNa9nqd.&i_uz$arWa>:6gF)4a>
   lR$4q3a>o?bDos$4t.a>noh(nUdc>ziC~%e)Xdku+otdktNa>t.f!hry%<ye)nX]xdkbCdkeQa>&jd7Bl^umrWa>:6gF)4a>
   lR$4q3a>o?bDos$4t.a>noh(nUdc>ziC~%e)Xdku+otdktNa>~,a?<ye)nX]xdkbCdkeQa>&jhb=>[H;>a8q3f!a9t.a9[*a
   9cv*=tNa9PbU(d$arWaEc7(hxZbIaElR(hq3aEo?(h!LaEt.aEnoaE[*aE>zaEg9*i!YjuaEu+j;!OtNaEt.f!.=y%aEbD!Y
   nXaEcv!ObC!OeQaEv8a>d7B%dumrWaEc7(hxZbIaElR(hq3aEo?(h!LaEt.aEnoaE[*aE>zaEg9*i!YjuaEu+j;!OtNaE~,a
   FaEbD!YnXaEcv!ObC!OeQaEv8a>hb=>[HnTwkq3f!a?t.a?[*a?cvIa?tNa?nqa*uz$adh)4<me$,X2;ha*&d*M&cd.&i*Mt
   hn0|Vgg~sd;l6=+]$b*ggthpKSb[W!VcUgHo+hTa+v3a+mlbMa+gH(,aYa+)~a+gHeU;H%p]^<go+h+_mma2qm[Lfm^uara8
   $fa>bma*v3_qmkRE;HlS]^;HlS%pa>[Lz&$fa:upkRbQmWbMd<h.utrTaEhT%paFrnuX^uaraE$fk1gUar]bq=rn%pw:ghbn
   hT%ph=lSd<h0h+]b;HlSqffhh+%pgmaw_h+$oa>h+%pa>$f,7_)qa:bMq+$faQsbrTa8kRbQmWkow9f5b+mWbM,7_>sa>h+b
   Y^uaraE;FaEe!araE$fa2h+gqul.%lSqfvhhTlSutk(bQ)qaQsbrTaQ[UcYh0h+m;bQqm^v)lm;bQrnd<h.utk(bQkRbQ)qa
   Ap>ark1a[k(bQ>saGC^uarcYh0h+bY^ubQqm^v)lbY^ubQrna3mWh+j=i0hTaK$fa2)l_eUDce!ZmWbMaGaaaA;Fd<h0h+ut
   k(bQ$faEeUD:>aKcYh0h+_eUDce!ZqmbMaQp>araEqmbMa2)lm;bQmW$fj7,^b$c]+QSgmawa>$fk1a[rT.=e?ai%K^Y]C+Q
   b4sbrTq=c]+Qb4sbk(+.aw~uc]+Qb4sbrTj7,^b$y7[Ba5q]f^dl[B]C%pa7q]a3y7[Ba6q]f^dl[B_>s%Kkoy7[BaEfoa0)
   ~j7(,g%y7[Bj7,^b$y7[B_$faK)qaKNcth+a2;AbyuZ$Hb.xgq]a2)qa4q]a2h+%p]tc^e?ai_qmw9f5b+z~a>)qaK[Ufsai
   <G%K^Ya2w9f5jIcth+a2>sj7e!bYs2bu]5%Kkofoa2a2w4)qa4a2focDcth+a4a2w4>sa4%Ks2buUb*foa2a*v3j7(,aYa2w
   9f5jIcth+a2>s~ufoa8>sa2k0a2w4)qa4a2focDcth+a4a2w9~ETdQbCcUhT%Rulq+icj7eU;Hq+ic]ba.)~a.gHeU~uyZ;H
   q+ic%paEsbrTa0)~q=)hcPa>iMjU$oaEmSvQ(N!~b4;F*ea4h+_mm]^<g(,aY<geUq=)h[LdLawd%dQh:b4h+a9a,)~a+gHo
   +)hhTa.)~j7s7)h)l_)l:>aQq=)hhT]^a,)~<geU;Hq+yZ]ba.$Yaxicj7s7hTq+yZa+gHo+hTlSp$a0v3q=vMcP~uvMcP_)
   lm;lSj7s7vMcPq+h+.%p$q=vMup[Lfsai<G]^<g(,aY<geUq=iclSk1a[rTa>[L%?hTa8h+<ge!;H~*yZ]b%Ks2buUb*hT~*
   )ha[j7e!.%~*yZ:>aEaaaEmm%KkohT~*yZa.)~j7s7hT~*yZ:>aEq=mWcP~urnq=mWbM]^q=mW[La8ko)qj7e!q+h+q=mWh+
   e*ai<Ga9a9ic]b%Ks2buUb*mWvM)ha[%KbMq+vMyZa.)~j7eUq+vMyZ:>aEaaaEa*v3q+vMyZ%p%K^Yq+vMyZutrTaKuhj7e
   !q+vMyZutk(bQtqaKaaaK~uqm$fq=qm)qa.)~q=qmw9~Eh+_obaKsbrTaK[UaFhTaFbAa]aEqmkReL:f.%$oaK[Ua>e!k1s2
   buUeLmSdlh+l&uha1ml^Yq=)lzXdlh+_mmk1d>%Kko)la>foa.$YeL;%a>b;j7s7)l:>a>aaa>a+gH+1a8q]a8viobk1a[rT
   gmaw]t%Rul.%lSiCh0iciDcUyZa8mm%E+QSa:fNa9mm_g=a?c]p|_t*[Lxga2q]vWdQbCiEcY)b;Aa*jEpCiEcY)b;Aa*|+d
   AiEcY)b;Aa*Bh$b)iEcY)b;Aa*RbliEcY)b;Ad.bBi!f!S;Ad.bcrgZb*yPiE<mh7eRb*M)b<ml(bc;>lL:3e*eREiE<mh7e
   Rb*M)b<ml(bc;>d.bcrgZb*F:3_xBrx?E,3e*eReLb;tVbc;><oa2,3_kxcUyPaEb;a2viiBafeWafwRb|asSrxpF&KwVutb
   Dbwa,p7xGrxyYiE$o>2^!,&~v~CcH$o~vfe*f]w$7~Cp>d1iMaXqffhmnaw~vfe*f]w$7~CBg,xLpNqnxLb+!+a2$^xLaxo~
   xL%^.KxLax>gSxLEvWszL-pF&K)xyYiErza8kxs.)xxGiErz*fgEgks.$&m>bhaYiEa>cHa>tsrxobbt$IxLb+,&+TelxLb+
   ,&;Abt$I>2^!,&d%Oel>2^!,&rxxGiE$o>2^!,&~v~CcH$o~vfe*f]w$7~Cp>d1iMaXqffhmnaw~vfe*fw~l<aw]w$7~CBg,
   cEqnxLax$^a2o~xL%^.KxLax>gSxLEvWszL-mv&K)xxGiErza8kxs.)xyYiErz*fgEgkb.rxpF>~dlk%>2^!,&a8fRd4d>>2
   ^!,&a8:sk%j=:Fj1e+:%xLaxzRxLb+umcHfDck,%dlcH:Fj1aE;%ts:Fj1aEiAaxmSdl^1$ocEbBVbQp>>2a*)xyYiEa2cHa
   2kxErxyYpL%8cEbBdl?wFRdEaga|a5H:%a5zRa5c|bWa.)xyYiEa5cHa5xBrxpF>~dl?wh:bba4H:%a4zRa4c|bWa,)xyYiE
   a4cHa4xBrxyYag:?obbyhU:Fj1aEyPrxmv>~dlx)n5E+P:FiAy):%_x)n5E+P|hcHaFyPaEb;c*iMaXaFiAaxzR_x)n5E+Pd
   *iEaFyPaEumcHaFiA.U:?x)n5E+P:FyPa*)xxGaf+&x)n5E+Pa4cHa4xBrxmv>~dl?wmv:FiAy):%_?wmv|hcHaFyPaEtsd*
   c*iMaXaLiAaxzR_?wmvd*iEaFyPaEumcHaFiA.U:??wmv:FyPa*)xxGaf+&?wmva4cHa4xBrxmv>~bWxLb+,&fml9are+:%d
   *a3b8tfc|bWaf|nb+b;v(Ea*)xxGiEa2cHa2xBrxxGpL%8(|*kLrxpF&K$&j=d*iEa?j1a>umcHa?j1rxmv&K$&j=_x)b.ag
   a|d*iEaLj1aLyPaKumcHaLj1aLyPrxyYag$7prcmRdEiEaEcHrxxGag$7pr_x)b.aga|iEaKcHrxpF&KwVj=SiEa>cHrxmv&
   KwVj=b4x)b.aga|iEaKcHsortcXlTtld*v($.jbc^bmd1acSaxalb(X.SiUcjuGEOcC*fd0uoce!~(=MaxjEhwaYa*ed.1Ml
   Bl<b1yY$oa8fUcJp7xGqfvhp7pF>~bWa3p7mvi>axmnawj=a*fXb*baalg8byd9uamkb!;)_fUTb.aEkoas.$aQcP_fUTb.*
   XBcOSqffhbMcrs1aY.:a+DalcXY|rBcOb4!SaY.:cDs1aYa9bMcrs1g%bMa*c<aledcDs1aY+JbDbwfD[(*Xb4foc^bcrgZa
   rcEjJar%IYnWkTKiEd<)b*Xb4fR_foa3Wf5axfRbYjJarfDf5acb.w~l<aw*Xagr9*XpQribM]fddd(avb.*Xd=o?-yY$orz
   *f*Xd=o?-xG$orz*f*Xd=o?-pF>~vQa+nJd=o?-xG*Xd=o?-pFi>i3c[,jajbOlsb4uFu?arbEs1aYc^![ara*hc.]h:lsb4
   f|d<h.oE%IabvNdzb!cDs1aY+JbDbwfD%>aXSfD.HaXvNAbhbobmcUdQcJeBbPcUaae|bm|h!+Sa4eBbPa*~^l&bGaXd0XbG
   aXl6gObYo[!SaY]tfma[bDbwc^nKaXj8[(a8fodd.hj8[(a8foa2foj=]tj8[(qPVwkW[(a>cgc:!obweU]w[(a>cgc:qjb|
   ]tj8[(d1acb!]td)![ara*rEb4Palb|bQ*IE!~a*rE_eXw:fba2fbw:eXl6gO+4SfD%>aXSiErzvWjduHafuccU:OF=6:3cU
   rESa3y(gquld%dQbCcUaavi<<<hvi<<!eb(XarlBbWb4Ad=aai9h:lscEkkafuccUtqa8aavi<<a*bxEa]lBl<awa2a[c*jd
   UeLmnawa8rEz&mnawe|aib*rESrxpF&KpAWa+p7xGa*gQbPa*bGbh%Ioiaic%awa*b)OcjqH_~Sm>r:!2vNyY([cjqH_~Sw~
   bWa.xGa*b)OcjqH_fUTcUFj+agkNbbvWasSqLyY$ocajebCcEbBV+.g,vWasSqLmv&Kb:Ibbb.a*fb<TDkgfUTcUFj+_~S_h
   5dwvNvvBbYl9f(;?bi;?c6;?e&;?e.;?eg;?fv;?i?lLoLa*b8Cf(-yY$h[^b8Cf(-xGa*b8Cf(xovhWf5jWbePjWedrFbPd
   1asSbSvvBb4f.Sy2!*=r*w~[meh|e$kynla*bRd]w~ijc6t~e&t~e.t~egt~fve$r[cwa*!+w~ijc6t~e&t~e.t~egt~fvt~
   i?t~m|t~pk?m0?m1?m2?m3?m4?m5?m6e$wMkM,AFj$vUazeGd]a8mHafxXGa+[%c*rMi7j[KwAe*az%zTgTdpamiR=IqiYaz
   %zTa8j[j$qi*D~Jdev4a;Tl:a,tXo]bY:3api7i]%afzaQb>bYs2a9puTapa,tXkJ&|a4bbje$3Ck0h<|CKi7yyy6e!a8bei
   RvU*~%T~Wa:yy%zb$b>a:j$apa;puRa:*Dy6e!c8a:bxb)vUapa;EiRa9beiRvUazo]a:I)eb>a:Oapa;bxb)vUa;Cd)&;e$
   2k*0)9GnVf6aibuoMZw|gdffvQ.enVf6bUan%1]obbbj]>bWbxe$2k*8m^c%<8aqd+bOj:a8bUD<4*J))b~LogbaqIMnvkUb
   +d7b)bUa[bjc=rkJbU!V.ab8Vb~TVbNana8gdbjF!Vbj<&Ue$nFf3kW~pb%qQbN*Jn4z0bjz0bUcgaoe$nFr[kBbjb;khcCe
   $nFqCkBb~nod2d*khcCa9[Ta:nod2jc%Ze$fVf&nOYe0Kj$by(7bCUb**;jdb0bIh*S>?$4$4y5>3X>?cIk1dcb(hrdcZ>?C
   >?j6dccI<zh)cgh)b9a>V>?TXdcTXdcFdcb9oGdccgh)QdcPdcXcgh)PdcDb(h)P%ddSiCb(ot%dd=iDb9a>>>dcdke)iag$
   r5EeLWe$fVm4n^!Cn^-Mn^-Jn^-Vn^lYn^-Gn^-Dd)b[iYn9l5aEa]b.aEb8Cf(aEadg*aYaEgobxBb9bxa>XW<QWd)r.nIa
   mrH^:e$fLbXa8gg~sd;e$fLkya8oO$PcDcgJ~QDbYAe$f=f&hqgDOb0Pgn$KfyfJmcf,r8f2j!u[WfO=3k:a^r%~^m:I]4~^
   m:bftF~^Yd0Oa3~^Ye~b3tF~^Yb3k8?px!e$f=m4lKad(foMa^gng[dsfJu[PbzL&?l.nSf2iJfOjHm%fPfys!b3bfh%Mjmb
   zaxIt!a^bfd]bzj6d5h%jdb3c(a2c(a2s.a[<ib3adbEe1Uack.IH?sTbMd1bMNbqrkbqrkaaIkKe$f&nka*cWbLc,e$l1iy
   m$*mbdbu;StIe1tI%CtIxltIcga^tIc3axtIpwtIfCe$lrcRcxUrAb*tI,wtIsjtI|FtIc0e$lrf0cxUrAb*MWm+c0Ee$lrh
   [m<xkQc0b+QWmfxkBc0y1xkKc0y1!^GxkGc0.e!^FxkFc0b+PxkPc0Ee$4ha8gxg,b*gPcIvJIwmnIbpiVe]m+j.e]kjjYe]
   vtdM5_dAsyf05e]syf36e]Oq,)3e]qcrbe]Ukjkpagm+k5agkjiWag$>wMagizfjqCags,kyagOq,yDagqctDagU=bu5agEm
   +dM1agVm+:;agV*zjQagg5MjZbpaad<jgbp*slhbpbLd<cw9bpzGf04|:d<r[4$A*sqC9$AzGkqbom+l>bokjkYbo$>pmgqs
   yf07bos,cA<Tqch]<Td<o0_m+mh_kjl?_$>!EdJs,bX_s,ypceqcnk_qcgbdJ=bfVl&a9fjf=d<qD5_*s1eK_zGp&afm+k6a
   fkjo1af$>yoafizfjkzafs,f&l8q,f39afqciyqVkjpVe*m+pWe*kjrDe*vtea4amsyf33amd<>,<Sqco:<Sd<pl0!gamd<j
   |itm+miitkjnZitvtea9(?s,tB]AqclZ]Ad<oS(=d<oTc*kjn:c*vtf01vTsycw5c*s,cRhFq,dM9c*q,n[rwm+pXrwkjq.r
   w$>ix_e7s,u2_qIfju7_h5q,dM3_h5a9fjra!gd<p*khm+t&_fgMq0kh$>f0_c3syea0khs,mQ_fCqclqkhq,t(!fd<x%cmk
   jqecmvt,XcmizMf35cms,qF_c<q,ea8cmqcvBcmU*zbkcm*st)cDaad<vxcD*sx&+Id<pl7cDzGkz9cDa[d<1lEojm+zg_fI
   fju;ojvtp[xosyf06_n&M&$_c9qcqyojq,ea3xoE=br]_c9Ovt:Cojaad<1m~oj*sea7ojbLd<>+ojzGqD3oja[d<tkojU*s
   f00$Fm+)1$Fkjea2$F$>r[$FizfjjR$Fs,da$FOqcqE$FqclDzfd=*zs]$FUkjea6!g$Fs,dM!g$FOqcu9!g$FqcoedB=bpl
   dB*znGdB$>!IdBizfj!FdBuH=bpodBU*s1m4zfzGcw7zfa[d<u37cDlu*sdM8bym+f09bykjp,byvt~;byizM&*bys,c$hhq
   ,>9byqcnj|9m+dM2|9*zo9|9vt+Nbpc7Ea9fjk*d<f32|9s,mRbpbAqcu8bpbAd<qC7bpj5$>yn!g|9s,cw!gbpbAqcn!!gb
   pbAd<1fLe]Pm+f02e]Pkjf34e]Pvt)2e]g4s,eae]Ps,h[e]c=qck|e]PqckMdBBm+:DdBB*zl1dBBvtf03dBc7s,f3dBBsy
   f31dBbAq,f30dBbAd<1o;e2*zv>cDD=bnFcDu>fjtAcDD$>ofcDbes,qDcDDsydM7cDanq,dM4cDand<1h^cDJ*zhacDJ$>l
   rcDe7s,dIcDh5qctCok=bu:ok*zjpok$>vA_bWsyea5_g5fjqz_cQq,f37okqcpncDskd<cw8cDgld<u30cDYbLd<f08cDYz
   GdM0cDYa[e$5h[7)=_nEn0Cl9b.cDnAgrSh*acz&i8z&lVSa?hca?i8iCci:2Se$jpm4a!c)i2mCaYjr%QaYbUb(|PIg*dL.
   QxzmZIYn&Pmfn&lyb+*7.x&yYn&ks:Ba8rGa8fgbjl]g*qQbUfI!Ugjfw;KTqafI<L+Wnn.faYevPb~.bi7aYjr%QaYbUb(|
   PIg*dL.QxzmZIYn&Pmfn&lyb+*7.x&yYn&ks:Ba8rGa8fgbjl]g*qQbUfI!Ugjfw;KTqafI<L+Wnn.faYevPb~.ba*aYjram
   rH^:a+eHxt+C&>a*mrajqS^<+da,G+C:+i~+ya*d7vOd+&>e$h^pnkKe$h^eKa*fHdJy]a3&Vk[dM5tQp%qVcgQcDnAnEr:h
   c[4yN;.<wtVVuf>[crs$fflC)z;Y+])z!Ba9r*]ua9j,a9o5a9yN]va9rKa9b!!]v[Yxws$ffb(d:wgd:adg2d:dXbEgue]a
   basevabasadfxal|$bQ&on0Pb(j*c9[sdd!5k%a>fRa8$ZSfTbME=M+,xAv$e=h*(WlVa2xAb(d:dXk[2f0<Yec%]qVcgQcD
   nAnEr:hc[4yN;.<wtVVuf>[crs$fflC)z;Y+])z!Ba9r*]ua9j,a9o5a9yN]va9rKa9b!!]v[Yxw?gcYabb9uGa2xANnAx4!
   <%+d;h*(Xt*i8a?dxa>g<lVa?hcdd!5fRz:a]k[jR**o7er>Ycp:,nxg1fi>4k[jR9.5eCAlOdSa2bDg1en;8)Pa2dbbEscl
   (ac=Pddrhc^c)kVgjoqg1y0*^g1f7<)dStTaYd8c)eCu<cxbGlOy8:5>*n~hne<vKk[lr7a2fHgqe<fix>bXa8mgx>cAa8dS
   x>cw]oe<rG]s]q>*n~pPb^oH&H|fm<gjk[jp6kWgXa8bxe<f7e<qKk[h^1hWc)k[h^3fwwxx>m~a2bDIaXi0fix>f=a8dSx>
   gba8enx>jQ]sx>mQ>*n~pPb^aax>nj|fm<gjx>l1kWgXx>jpevdSx>o:hWc)k[oe5fwwxx>ixa8y8p.x>lDoGgjk[da1r2je
   $3c7e<fik[da4a8mgk[tra8dSwhe<c3e<rGk[ix2]q>*n~pPb^oH&H|fm<gjk[k|0kWgXa8bxe<f7e<qKk[k|5hWc)a8gBe<
   GbGoHy8:5k[lD0a>&Hx>haa2zRbQf;%Re<fihWaYa8bOe<ksa8gBoHdSwhe<enk[6cA]s]q>*n~pPb^oH&H|fm<gj!oe<y0a
   8bxe<f7e<qKa8a]aYhWc)a8gBe<*:k[6tAa2&dgqe<fihWaYk[6nFa8ksa8gBoHdSwhe<enk[6f=]s]q>*n~pPb^oH&H|fm<
   gj!oe<y0a8bxe<f7e<qKa8a]aYhWc)a8gBe<*:k[7cRa2oR_dbpOazbD^i>LdSazDaYk[9lExqHJjd(=aXtpag%Va3n)a3eV
   a3k>a2f$itrAa[a3:ha3eZaxdGf1pGy!S[NNn0dGf1bocXbAd9[NNn0dGf1j=S[NNn0e?bga2asbCf5e|cXbAbSbCgA*Ga]c
   %bgc^Picc^bgw[b3gMbgNfDm&kAcNaZe|m5>En:a$anmVctaodUdu?.xM?.xN?.xO?.xP?.xQ?.wI?.wJ?0xM?0xN?0xO?0x
   P?0xQ?0wI?0wJ?1xM?1xN?1xO?1xP?1xQ?1wI?1wJ?2xM?2xN?2xO?2xP?2xQ?2wI?2wJ?3xM?3xN?3xO?3xP?3xQ?3wI?3w
   J?4xM?4xN?4xO?4xP?4xQ?4wI?4wJ?5xM?5xN?5xO?5xP?5xQ?5wI?5wJi(z^?%xM?%xN?%xO?%xP?%xQ?%wI?%wJ?&xM?&x
   N?&xO?&xP?&xQ?&wI?&wJ?(xM?(xN?(xO?(xP?(xQ?(wI?(wJ?)xM?)xN?)xO?)xP?)xQ?)wI?)wJ?*xM?*xN?*xO?*xP?*x
   Q?*wI?*wJ?+xM?+xN?+xO?+xP?+xQ?+wI?+wJ?,xM?,xN?,xO?,xP?,xQ?,wI?,wJe$o;f&ezvjn5bHz^b3CqZafibbeS[Nr
   *a4hca4[ma4u!a4tea4%8e$o;o:b3CqZxoabj6[Nr*a4hca4[ma4u!a4tea4[of$rwcNaZ>EkzrcCqZ_p9S[Nr*a4hca4[ma
   4u!a4tea4[ok$JcNaZe$o;8r^CqZbY[rS[Nr*a4hca4[ma4u!a4tea4[ojNJcN*lc<f6&ZrIc6rIe&rIe.rIegrIfvrIi?rI
   m|rIpk&Z0&Z1&Z2&Z3&Z4&Z5&Z6&Z7&Z8&Z9rIc60rIc61e$mRfLa!ggO|[cE=Ca+dPa+e=a+g=a+c]a+gpa+dxa+dYa+f>a
   +NpK%3i[b$;F^C*MOa0gQ:J$jfuOo&pQa*v<ola*[5c,=Fb(f5z^<F$Smeb%ZbQ;&)rhqas*(n7bQiHh<im$kb<lT;&C=(aj
   DxuZd!bdYf8f!qhbQ;&)rqNVl6Vd.Da*b|gZPVxuCtS:Ipri0;&xVBuXaED=$aEF%SaEHaE!OJ^%=%=&*ip~j;aEQ=(.=z;a
   E!Y]6W.>aE!aZa!u&MCuwMDa+MR$jbYCaj=Fb(f5z^<FqNbgadcm=;tS:J~d;&xVBuXaED=$aEF%SaEHaE!OJ^%=%=&*ip~j
   ;aEQ=(.=z;aE!Y]6W.>aE!aZd!gUbQgQ:J~d;&PtS:J~dbudKf2e^BfDC$pDJqhbQCLajOf6lLalEa*f5a*gQWa*cWa*cNd.
   d9a*bMazEy]a*VvNg^Dc!*4afu=aca*g<Ka+c]a+f>a*y7+Gb$dPa,dYa*v0e=~mb$e=a*rKbya+lC_j,;bDqNCqNDRa*fp-
   q&a*b8b|aXb|a*b)Va*UHDa*uxxql!=<Kf!>EjR2<ZGhAg%$%g]f!b0)r$p&B*tc9cIqhbQ!;e]cNbSpte$racRajJ,gbLIq
   *gJfvkMB!(Bix!(3&wa*vz*tbeajJ,gbLIq*gJ>I8C!(ofaqgJm|9E3!(ha9kX>IA4&O6qEkXi?h[1&OlD9!(kMD!(F8C!(q
   CD&O5B0!(lqDkXi?Dn!kXi?jpFkXm|pq9!(8F0!(4jQ&OFky&OnF5&Of=5kX>IbXkX>If0kXpkcRaqgJegbe6kX>I2D!(3F3
   &O3f3kXm|Dv?&O2o:kXi?9lZkXi?A7aqgJeg4ea&OEtB&O7f0&O7eakXi?o:3!(2mR!(5B6kXpkkyDe$rah^hqas*(n7bQCJ
   ,gbLIq*gJfvmRC.?>If0.?>I8C.?egBs^.?i?0B9.?fv2o:.?i?6D7.?eg2cB.?fv5ix>Es<$kgJbtD,utcaxccCdfT>Ek|*
   *oJar&=cmbjLbjb)O[6b)Uc(XbUCkNe$wQqzd!(:cnclc<h4Y|ed^alkenOcVapw%>)bLbNb!h=bpm7o*vNd!*vgLaub*tED
   cCKczbL.^fN:&ci%3cZujy3f[.tGb*tE*Ba!&,s&bWa!cQLC.GgxciKYageym$$(dBb8Bb*^kg4-gjt$a^cXaZbudnb3f~-n
   HbbvLe0k?b8c7azw[I+7cZgQWbpscf!a%c|Xn5^Ha%bRRi9k%a%c|XcUr!BbAcCa%Fiva%WadcUr!BbAcCa%b(i9k%a%Wadn
   5^Hd!^HbpsctSWbpscazi!a&bRRi9k%a(b(bba&Fiva%SbLk?bmb.w%a$b)g$TlQ!~Ms(ahpHitb,jU(6eZwUbL~Kd*.zgRa
   3:5%Va>j]uja&c^yHh7cVNb.d1asd7ana!c<GlK%VbobmcU+qc9b$anG*OCOf[bB!VOa!h:bbNgM!iarLlQEbJ:hc*almT=i
   f5iQcCwduZd!AbwcC*Qb$Pdfd?hqUrEwcaZgAbob8b|ata!b,b!a!fpBc5CcCczbLFeXf[b8b|atm$abhterd+axt$cl<&Ba
   !c]amgj.zbJgxauaXamgja$FaYwia!aXgjcmd(avcUaaag%Va!g9b)b,athqatvu!hblaZGpKG]*,[bVcna!&,bVcnhqc(aZ
   pKaXr(f[adl+ezd;aujUa!f$_aujUa$:hezEabezE;swcaZbN,[=fWvDgAa!h;*1G.C,kqZbyd+gB(CtEa[bozBc=cjTgAy&
   a!t$i3hQaZa*ytd![zbQbNj*a$mSgAc8r0EcXcUy3LczPdNbOTaof[$+jF,nbCcmbN,[b,jbarafc0tGc=bDiBuMc(Oa!(+a
   cczl|IjFbNarkDbN[ua!y6bYAdAo&WbhL(?Sb[cz~D%talcXtRckbQbucl%talcX%FuINgMd![zIclbCy|eYTb*ebd!b>o>b
   8LrEbdd!UbbbHm]dPYbygDa!o^Cgkcl[Ucto~!jo(_c<(+d![zlQ:edelvjrclbxccbMap:OdTaXczgkb*klaXc8bYbMlKss
   [gb|uP(.mAhquibug%D%>.(aZbptPd!kT%8gqaZbptPcZBfWkgklr7:edelvIhn*~b(bxa!klaX*~bdPn5asKezbdCj&a!bN
   rea[lKRnUbQ](awf[bha]c2YbYgkcl[m-qLuEj%wcbNbbbIb4TalclF&GpGbNbbbIcZ+0WasKcZ+0WasKm>cbq!~Osc$SdOb
   y=g+SFcfao(vhqadfWAbDc*alclp>bQ[ecZPss=iasf(]O_*xyE^7caalcXaZlKaai0bCIbVldk3VfqWn5aZc%a[Ycz(ff6a
   f|<e;a!jEhwf(bYaua!rBazy(_k3f7fY.&UbcEo(cmeXcZnpaix~+=aY<ZmVqH_bNrea[a!>h_zm$2az[mcZbbUbaObpbub,
   cvzBaX|)afc+qHd!+[e]dzBcZc7cXbQdnCg,b.$AzPxESa,v:lQbRLMcmb9bVcZc)Mc5b%k3uccfyEab>;L_csb!jFaZuqag
   q]a!vkq!bYOdnaha!y6b.hhaXdey6gxbub,cvzBe(h6i3cX.Bd!d;bIa!edcvzBabaoi9ibr6bx:~wbTd!c[Ub4Tawa!uccf
   d!,id?_$2z3jlcUlPcZVeWctd=bVa!bakEb$coczb8b$bIbCpKBcic+bHcZxZb*bacly3,jjFeXbyvjn5bHcZ>hxEgx)b$Az
   PxEcZptXbdHzBluai=5>h_zm$2hqqr)6h6f6aaa!>hafCOal*N.qb.kDbhTo&kOa!hcNIb4=QbctGb>(vczgPc8afgP<TgDf
   [dnKcfytdec9bda!h:bcaZbQ[eczyH$2pIR.q.CbBF.CP^Nb4dvaYhqb,cvo>csb!xnClQcXaZbulf)%yta$h$nnYczWg*Mp
   Ic0fhc+Fahk?f6FpI=Qb.bpgDasC(:aXajabd!^ytGi[b$b>(va!cQLaXYyt]Ie;i0c9bPE];ucc8(va!bub*c9bPE];ucc8
   by![*OnIj0NIb4P|AaXc8(vczyHbYnUbQe(.sd!cXPlQc7;sazd^alkef[U|Wn5a[vrg8*Q%A:&ci%3yE*vgLauclqHe;bub
   $c9%A:&ci%3uPy.zPuNSaZTa*c5Lb>a!d7bvaYbycbczbDbabg*Q%A:&ci%3<ddBbHaca!f1(nb*j5|WlQ[:byd9o(bRj*a%
   ^kg4ad*QpCb<f[^;!hgMatbrbQbx%9erbCpKc9bxLa$b8bW+Sd3Iacj*caOalcz(ff6uN~lpBcaOaljFA=oo>d+AcIcge*ad
   j%]ObYjbaXa$^kg4adqM%;Ne5!klKckb.q;[ea+dDa!b,kFbx!ka!b(%zf[c)Mdwk3=QbctGb>kDUecaXC(.a!y3decSa!cX
   PcsAa!c%[|w~ijcmaiZPbr^yc*]=bic6d%]=e&d%]=e.d%]=egd%]=fv<[Tgx>;<YXa!&,:&u?aYOd!y~hqaepIaXbdbH<[r
   eaid!bruMrAa[d!b,CObaaXlKbGaXczd7cicz|nclcsb!a!eJk?ObrtREdfgxa[dAo>b,d9ahwcIbPac%FGezae.&abm$n|e
   5<YbwbdcCczPbhaY$rf[tPa!e5m]dPYc7clb(DYgqcfr7y6a$TuibuaYf[bmy6hqbBTr7bGTbCcUbCIbPa$BfWYa%FRdE-fX
   b.f[bhDezj$Uaaa!rk!z!j(+r7Dj+arx~bYAs5a$i[bwbNad%FLcvaagx>;$HmTCy~a$TaeaZa$b9reaiuPbra$DrAa[czc=
   gMb.agbGr7csb!$HmTr(zma$anGwdaea$F^ca$h;Saha$Wf6Fa$c7abwdq[ezaemkb!ez%0byRdwcZbCkdM=Zm$c3cZnJm$=
   5dzb!gxgOhqjdUcljNbMnCb.z^dT.%a.cPa.f8a.gs+1bQdTc,a%Wckb.a%cNa$h+b4bMa+cPuPLnUcUdTSa%fod!.hlK%]b
   4bGTm$c3Gy.b!cZgQbPaoclTqBbh(6e7adcZDalb|<Wg*a[Of[lGaaIlK%]b4Cb8f7cZPbBb!a!dTBdN!jUbCgxvd([mThUa
   Xhsa$f|-bOEoulKatvdafb>aYa*bAgDcZ)%PRdwcZBcCb$aaafcic9<Kbxa%j5bbcZbAYk?bhL>rlK%]jFcXciY>rc8agatl
   fc9,hcUdTSa%e=bpaca,Watac!j,kqZ(naZlK%]azBbLrodJabcZBbNbeazbWciz3l5azBcni0bGbh>razluA:.er%lbBBad
   ]LaZbpadxu%]f[fWY+Svrg8=<KaZezRaaj*b|]Ocef?a*mUBkTk?c9bbf[fWkgc(e;m$e[b9ahal|+g%mbaca!mbac|:Saha
   !g*PczKivtQ>X(?l!n9l5k?UbHSo<uMowpIrESuca!d7cihh=ta!fXb*bIb|>:bGc[gMa!jjaZhhaXczi1b.clPciL<Wc5b4
   i^a!b8bWdpa!ick?c%cazBgPb|.&Ubccfd!ObMaXazrBlKarDlQc7brcUrBa$%1<5a!g<rBcZpCcbLcUrBa$GcOlQrBazcSf
   [d(b*rBa$:ha$c3<:wdbBjUa!rBazbNrea[<ZcQLVcUrBcZ=^b$=iasf(a!p9kDaupshKd|=4m$c>t$w2BcjBa!c(aZf!f[a
   tBczaXdfb.f!uPf6c+m)a$pCpQ+%c0bruMb,jU(6mjf!ezIaXhtbyg$a!fe+.budfcZbalIYf!czg4vG(vsca$a]dQiPTqMF
   eXa!i8nCSf!gxdPYbodNd!bB]+YdJXbCc(cls>[5c,d!f$aibYbHf[^;~!azYacc,a3[5a3^ka3c=dWgxdPYapagb.cZbClP
   azmBlHg,deYacy?b!brz3l5aYuuuFahf[bNvFpqb!gxaaIbagLjF+(Pkgbal!a!bdcp(>gLuMVD]IdUc<[sa%foez&1&;a*f
   XcUbMd!AwiDaba$bxab-f1Fd!bH.%wclPazmBlHg,a3s9ebpGlPd!rE$2ezl|(1a$oJezauaZCrEr0b9fhh$q!a$:W.&cNi^
   geBcZouGpI~!bAcNa*j]=iudveCfN|ebAcN<^a$:ha$Bd(mT^PclbAcNcZNcXnWc),agLb,d](Ce(*P?Talj*[lezdNaZjFA
   XerbCpKS:+d]aib*e5acd7ezbl,kbtcBallzb8gRS>gpIh:aZcUbVGdmzBtqo~c*=Ra$aao~ezm5>:E-bIcif!tQp=cU=:+(
   cl=:b8g4azlkcSf9|ebIcio~azeXbQ[ea9o|ara(foa9eXvfc=bbo~!jbbg%p]tSWpCauaZldp<aX+AgGj]sD_brfYa!h6B^
   hw~beldp<aX+AdGf1Fa!dzw~p<aX+AdPcZe5acd7azebyEcX.B<dcmpQ(BeWObYcX.B*PaXh6m)<[baO(BeWy|dnkFbx]ILM
   qbe7=oezas^nafahEOezb9z0gqc)cZb:IbbbQsDSuPmy_i=b>q1foj=aQgSj=i0dG>^a*lkh9mBfoj=olSa)v<_s9bmboc.)
   Qf!a%f|cz>gaZem;EqYgIa*a*j]dP&Qagckaxg=&Qs&bWcZi[avYm$c>t$byd(GuOx:bI[fjrYcU[gb|a%vwa!gCazr9byac
   |egCazzma$a!gC<^.(d]<dbY;EqYkIclbAcNi^a!kTKx5b9baO:&eca[f[m5ap)jf9a(g,a%a[azEy]wotiSscazv)nraz=]
   NctdGmmdJaygrx5zmCauj0tQPgM&=_iHh<dpSa?b;crguSgt%?iHdpcZ+0m$c>t$c*asbClK,nbCa!h;w[nO!Zh9ch(6c9(f
   ezIbbf6gxbub,gLbdclbxaXgLbdclCgAbbaY(va!dx~md2w%.ZbT]O&=bog)xzpIeGDaw_c%nIMpH~cj5eca[!l?!f$j=a+B
   d(Ea*^Pb*p9a+Bd(mTb;lJc([^Bd(clbMx:f$sLa%)0a%(l>1)0a!eXn+pL(]gyw<a(fb$jbY(cmXbVclC(cmXbVpsfRd4d>
   j^a2a!oWbCarfY[;d>az~]a0c.czcyiYdXb4bCauahqMiHp$%GuPe;hsa!atx5andlf1byEccclcIfWAgxd9bcclS]<GdiUc
   lMacudjqNaanWjVh:cZy3LhtojYGfqe0d!gC$Hb*dGy|gC]h]i(I]ja3dxa3dYa3f>a3r*a3hca3Ez?a3uke8dP$Na2e=$Na
   2g=$Na2c]$Nf^bW$Na2dx$Na2dY$Nh>$NbEd;$Nd1ac$N|j$N]gbW$Na!c.af>gaZ~K<U&Qagckb+g=&Qs&bWcZBivp]<d&Q
   s&bWcZicb.gqd].&cNd!b>aX>rbxLPfqCi3gCpH^>ivc8p$BdPcZdz:.=Qo>c9aX>rl&bocCd;b|afUaiamVaibrb.czaXUa
   ]lJm>o>Dcb^Ay.b!cZpC)Na*c0Ba!h5nvuc>ritowlQe,dTvT?Talj*[l*P?Talj*[l*~>:d~dTvT?Talj*[lqMTdQbC]1bx
   n|dP*T*P?Ta[%vhtw~beMd!i2b)Ed]w~p<aX+AzB,+;!=:b8g4xrbD[uvf=:b8g4azrlNb.jFeqcU=:b8g4wdach=afbD[uv
   fkTKbQ(2aZCrEcZdDbyl|(1a!eXf%Po!cie|a|+Gb$%;a3c<.sdKAdwBh$b)cE=Ra[uOag!VcUdThqhScN_dTy?u&dTaz;Rm
   >vjara)mHa*h+b4bMc,<oa*Vbuz*kgdTa*dTazrn+QdJe[g,vfu&dTazhbb$c7ullSdevMwVcZjNcPnCb.f%dT.%a$uhc|nv
   p3f%fQb.%Oa,dDfYa4x$dDf%fQb.z^dTa.x$uhc|nvq;bMnCb.a4cPa,k$bMa4cPa$k$bMnCb.z^dTa.cPa*rBuNl!nruuuF
   aha!zm$2c8bp>;]JgQb:asKbQp=uFahcZPRm&!jbPtGc;CUhDas(DHbH$rcm+(Pkgbal!a()Fa&S:chqaui3abeGD,ahof$_
   zm$2a!dGj5eca[bp>;a%e=a%c?clThQyt]Ln9l5aYuuuFahm]bH(>l!czu=acezRm&_bua[a$%5Xa$bdcp(>gL%FCbgawazb
   xe[a8b>bybuTida3a%FeJax==xglfX(Dc<[sa$<^d!bH_qmtd)NvNbRdUo~]IaXbYfWs$a!?ycDgDzNdNzNc)a!~!gZ&1gZc
   )a!?y]ACbgawgZ&1gZ&1cZanCbgawez>:P&1cZc|bbEBdnKcfczPbhaYcDgDb*Pc)a+pqwiDabuNl!nragaaanWgxaag*d+c
   lbIXg*d+clfN,id!mynNb>fY[;d>olyE;EqY<QtQu=&ucmdEafd+Ef!a&beu=&u|d](m)a!f6i0dAo>vkou-bMrFWpCauaZe
   z&1:[i0bxe[r0(.pGlPa!c2h4aZe]NjrclrE>)>gcUedl&afcic9<Kbx]J=Rb4&S)Db]cJgsf8afg4vGboblnI]Se=afg4vG
   boblnISa%c?cle,a]dQiPb$BblnIa%x$e,c(aZa%x$e((+a%rlNs.~O<?o~azytgDd.xXXa,o~apa,uza.o~apa!lw$^dX~O
   <?o~az|V$^lKas,hbpauldbLb$FUl]hqcNfChFW.CbDpEqZ_c+vDdOa!b%Lc9<KTqZrwauadldcgIk?RxzcUfXaxgSaf[!cZ
   sCbxabb4:dh5Ycz!.?h(waEb>af[!SaKCk^afc0braKTcVeqd4o[nJ%?eMb~p]cZWr9cU+qS!.i!o&[!cZi!afAcQbBcUlRb
   uI><c<(+<Zc+*6bQ+qS!.sCrB?ebQnJSd)hgy.b!>)MbhKcU&J!SaYa$;z](m)aXb|a$bLcXcCvfi!emk^afc0brezacb%dl
   &JsbFcCara$sbc<dWara$gPb|lQfXb*a]cOb.bt:Yb|a!gPb|cUi!o&[!*FCjJvfi!apca![-:OTjdUeLb>agr9cUnJz;cVe
   qd4o[nJcZbaSaufQbQ&JWasbNara$c(gAa$c=gMb.uPgA^dd?b!bJlQsCb8cNhtp)bgcva!baSaufQbQj5b$alc+*6bQ+qF.
   hcU?h(wa!c(Ui|bQ&JhnabFcja$c0x~xraXdfYa$aof$a$GbNbIC^db8gReqbYgAlQ?h(wm]l|bQ+q?h(wc8bYk^afc0brd.
   u=cXcUaa:A=5jba[i|bQ&JFd(b)arxraXdf^dbalIo>i!ap:O<<<d+=buaYerl!k?Rxzn5tEi!o&[!cZpqb$sCbxabb4:dh5
   Ycznpn5tE?h(wa>rB?ebQnJcZpqb$i!apaggAafnKr7gPb|n5tEi!emo[nJcZc=gMn5tEi!a%CgAb.a%c0x~xrrleqcm.hb.
   ][np^dbMuh-|OsCb,d]cUnJSbEctGg$DdBkQida3cNz3Sk3y3cUbedfeq!iE-dz-*6ci|:zma$=^-dz-*6cixr>g-dz-*6ci
   m]nUYn9Sk3o|cUdGdTz3Sk3o|cUbAa]_dTb4aabY[aB^hlL.hb.<dbytqcUfXaxc<,hbQdTcZ?lb$fQb.amgj.)a%&N.)a%p
   u&ea.n)a,&Na.n)a$?lb$+oVd;a(n)a&&Na(n)%H)(^Ea0n)a.&Na0n)a!?lb$fQb.bogR.)a%&N.)%G)(^Ea.n)a,&Na.n)
   *QL$?bcciT~c!$a>aam,+|,pc+i0bcciT~c!$a>aam,+|fEb,bPcfa$i4a$g!a$s9w5xddJb$!$*Ua%xd_fo*Ua+|Qa%Sc|b
   )xr&i_s>cH|Cp=$6,Oa<a7bma$dyl&ahb,Bc(a%S&i%Ha!bJkgdy!)a3rNa!$^aZ_$2a%rNa!b,bP)6bO,kbdahr0EcX<Sp=
   OzK<[ci$IbY=5f|lYg4bQTuj~KbocjaXb$dzb!hquj(CTb,a!lwb9ciczbDbvhqeJajabf[cCa$a[p=b.hqvkaXYBcCf[cCj
   )gxaa($cCa!cXBcjowcl+0_j$pKc=L%taba%a[p=lQbDjua$a[p=lQAgMatOp<aXa$a[p=lQkEalf(g%bWHbur7bec+uoc*h
   $bPa!abhsUb(fr[pgAhqb9=ogxa[udcild.sxnci$IxrcC%;m)ld.sbYfWaXc|o>AaZd,c*eJc|o>.ca!cObAbrczg4arbAb
   ra!duc*b9F(n>Ga%d&+Svrg8y?c=L%tabb4alcQLVcUrla!:WcmnV<Rhhbb%FasnOct=Dc,czMcNb.f!a%dza$uFb$kUahl&
   _aib4Pb(j*a$anmkb$kUaha$c=^nagh3a%Na[-c=^nf[bu(:r7dzbobu(:aXcZ;v(:c+bba$e(.sezarkQbNada!dzbyarkQ
   bNadcZbC|W,n?[gxacS)LWataccZaln6atf[fWYf!hqOIr6a!&,.zkFtRy~aZf[hUf[hUTblez[RPasb$C+[d!UbbatcZBdN
   d=Gi3b(g*omd(Gd=,aj2az?W*5cZ*CfpxWarc,$kaa>Xl8bB[XbAnv)LGbhLyEdQbCdei2PczaXdfb.j~p=e(c2bvtRbdPb.
   bodNcZc7d]Hbdgqd]f[arez+!qZ=<.ca!y|tca[aYc,tRbdPb.c*vkaXo>bbbMAezdNOc2m]aahwvTMjUm]gMm$aXVg]e$xT
   qFezvjGoJafc+belKq]a!icboiQo>h;w[c8ag,nbCtRIe;D<Yciitm8ldz*c|o>b9ci$Ic*hQldz*<Tbra!(lbpciaix~btb
   hmsa+..a%a$(*f7jbjB!hbh&Kbe~lida*tYVb.e$xTh^cz:+d]aicla[p=cU+0_j$pKbayuL<Sp=OzKez[Rj$aZaf~S|^g$a
   ha$e(z*d!.GclSoujFeq+%nHC.CK:+$2!hgMct^yb)%0ezIbPbMc*h$bPa!vkq!^>:+e$8lE8a!aYbCc%buaY&=_bcaabxb|
   o!b+Abhj9altUabl7&,b^bcAf4aoSb^bchKalr!dcalGe0c6a>V%ZeLVainmc6r3d;r$r3d;r$c6r3d;r$e&d)cjFbBa9cvI
   jJbd<&*FdDd<aZmSYo%c+%jhr|5%jc6hr|5%je&fmaad7ebd)aYTcraialr3aibNf6r3aibNf6c6a8b,bP*uThraYTc6fwk^
   a8b%LbJa8bha[ceal(Nalc6fmb,CUb4:dbha[a:alG|Yfm=gceala9bha[d4=gd)|5=WqZy9d?a:Cb,CcCuX=gc6fm=g_%Xr
   (I:+a:vOo(d)|5=WqZ*uo(y9d?a8bJdhuqd%aaceala9aXc)a9%Xr(Yd)|5=WqZ_%Xr(Ya:vOTa;z)c+=WqZa:Vd;r$a:alG
   |YaE%Xr(Yc6a>!oG|Yc6!oG|Ye&!oG|Ye.a8aYKaYbUaYKmbc6d<zFdnaib+vO-cXr(Icca8abSacbu!oaYr$!oaYr$c6b^b
   BkdaepBdLc5g9a]ceald%lPabd%lPabc6a8y;bP_vvmfudXdLudXc6dLudXe&a8aYbgqPcid)Pbhaid%aabwidfwbga8c|Xa
   8c=WqHa8c;Xd%gMdOfmau!ZMaspEbgd)Cdfah;!h5g5Cc),sb=Sd%.tawa9bbabf$<tbebbh8,paua8bBr:csb!ithgb^b)d
   ja9c=TdL^ya9c=WqHarb^rmxZa8=fTbgafjfqfTbgaE=fTbgc6d)|5zVfxkEkdaibrb+baz(d]<ub|f6g5bab|f6bWc6fxbB
   jrffPgMalfXbvfm~bnIfm~bnIc6fm~bnIe&fm~bnIe.fm~bnIegb^aXM;vdLhUhtbpx~aEVtabB%?je^Na8c9bBcrcV%QY-*
   Bd<a[l7fRiteJa>m7j*e$k*iypHfYx:c5d9j*aXb4d~j2a.(la.vwa.)0d.rleqd*j=]Q_uzp3a&%Ga&uoa&p?^Feqa$>Put
   ?Um,d*a!oJc*eRcfpHc*aaYzy][rleqd*a$rlp3a%j1a%uz%Ga&uoa&p?^Feqa$)Fh,i3a[?Um,_uod*a?j1$pTeRcfpHc*a
   akgp9a+uod*a,j1a%jNp9ut?Um,_uoa?j1a!p9c*eRcfpHc*aakg^g[^uod*a,j1a%jN^gi3a[?Um,a!a]aadBallsp$a%rl
   a%j1a%uza&uoa,dya&p?^Feqa!a]aa*uaoala$rl]Qa$uza$dya%uoa%p?^Feqa!lwgpaf)&bQx1a&j1a&uz%Ha(uoa(p?^F
   eqa%rlv7a&j1a&uz%Ha(uoa(p?^Feqa%lwf>a&j1a&uz%Ha(bJo>lwg^fQ(mw%a(j1a(]Q_g^fQbQ[,a$lwc]nC(ma(j1a(]
   Q]CnCbQ[,a(rN>Ga$lwy7fQ(m*Ua&j1v7*Ua$dxnCbQ[,]QdJfhfQ(m*Ua)uoa$dydJfhfQbQ[,a$lwukdlfQ(m*Ua9[,$js
   La%gQ:J$jzya%gQ:Je$s^haa!?!^Pw<a+c3<:a+:ha+PbBjUa+%1c:a*f$zya+Bd([^^P[^c3<:a+:ha+PbBjUa+%1c::Rjg
   a!dymDpD:Rn:,?t]p)s7tl*$$d+lj1*$$d+lyP*$jM:Rp[vVcSt]dJy;b(ahaY*$$d+kapa(i4.*a(jM*U$Ga0i4a0g!a0jM
   a,+lyPa1i4a1g!a1s9fE&[NcSpLFT*$?9&[j1*$?9&[uz*$?9&[dy*$$dfE&[uoa)mB,.*V,.]V,.onwV-c=i9zh&ljMa$%n
   h,%[&l?9p=Palb|%[&l$dfEdya&i4]Ua&?9dya%&ljMe$ofcRa$%n^Ca%&l$d&ea,!M.)<fa%e,ti,3:Rh[0a$WeW&Mq1lwj
   ja.i4a.g!a.jMa.&ea5!Ma0n)a5eVa,%na,i4a,g!a,jMa,&ea4!Ma.n)a4eVa,fEj1a.i4a.g!a.jMa.&ea5!Ma0n)a5eVa
   ,fEdya.i4a.g!a.jMa.&ea5!Ma0n)a5eVa.fEuoa0i4a0g!a0jMa0&ea6!Ma1n)a6eV:Rkz8oneGs7tla%&l$d%n?dapaa*$
   s9+loW$3mAa(i4.*a(s9dyolpLFTag:g_v$:rz&dGfRaEt5onlpqBc)arq;zhi=lppLDara&fEnra(v)%nfYqBc)%[i=c.qB
   c)ara&%na%g!fYqBc)%[fE,+-fUd2pL(].*a&fEFRdE-fUd2a(s4jNcSpLFTag:g_v$:rSe$habXa!,RmB^1)(^Ea3i=^1zX
   Vb.zIe$hatB$jbY(cf4bVpst*c4a?igomfRj=azt*c4a?g=a?x4bTa8a!cPcd$HcUe!a3oWbC.Se!sva5oWbCarezaa$3wVc
   ZjNrBa$%1c:ezaabCcUdTz2kdd?-<<$HmTMdPY-<<a!sC!~Ms(ahnOaZD$HmTa]r9lQsCed!Cb>>:b,bAb$&J!Nh4b.czb[h
   twab*p]yEa|bpb*dTa$u&,+htuO-fXcU+1]RfXlQdTb)gkcldTazhTc8lS+Qb4p>vftKb8dlYdQ_dTy?i!emy~bAkgbGTd!b
   mN$HmTd7%Abrvfb,d]cUk3$!mv]BuIlQDb,f6cU&JeqlQfXb*PuZczgQ!KcU+qsCdGnJBcO_o|ark?RxzcUi!apw%|r%?dG?
   !h9dPd*|ra!sCwVbYfNn5o[rE>)aZI><i!apf!b4CfNb.(wa%S!.i!o&[!b4h9dTa!?h(wokatailQb)(.bQsC;zPb8DcUed
   ezal[fe5ag%]f[aljb-hnarb.ezuZb4bMc*diEa]pIb!LbRclPRaa[Xo<l&c*U<Nanld!~pGbNbbbIcZb)h$Gz3Sk3ann5ab
   b:q]a!ogh4,jjFo!aZldqHNbyawhUcnlKalbbq!cZ&,hhb8a!dTyta!tdcUbIl!lKcifrFeXuMm8azDm8SucyEkTKcUGy.b!
   cZTd^q!dBb(b|czikk?OaYcD)6bNf+]IRi9P+!b*dvaYa%^Va%t5a!o~cUGb8bWgxab=>lPb4bLIjld!s2b.cazB+!+$b!af
   ucc8(vcz:cytjFeqcUbagLd!b,Ib|e5!hcQpqand!,sguf[cca[!jbDiBd!abb,Tf[dN<KTb*gcc)a!:h*uc)tRa|y~byad;
   !c<(+r0Uu?bQFhDgcc)a!g)Gk?b(lzf1bpciKezEadgMcZgPhoFh$aiezowAdAcZDbge?lQf4TbLi3[zIclbDdA:Oo~wcbdS
   uccZy3Lo&ikd!bMapqfWd!OsbgMf[b,&wOc+ezIclPjeZe;d!Uo(_bVbrczb>hobCd!zHbQc<(+a!aXgjYdBalacgxc(Olda
   [bYgkclBdNe;cz!.i!o&[!b4h9g^rBcZcgc:cU+qS!.sCbx=5sChbdO_p]c8(|dOwbcJbLEd3|rb4b>agd[(wa!fNbObrbQ&
   JFal!KlQNaapAa!baSluc5bQ+qfXb*c9L%3z^vTabvNgSbyaXc)cUnJ>)*ra!=KbYObrk?diGaXcZfpKcUbAgDjFhD([clCb
   9Ba!:2$HclgLasPhAhqbBdAo>bLbuj&$HclEdNr7hwbPf[brtRcba!y~La!c<X$Hclj5avFequNaZk?asqga!c+ZbH*NHaay
   |zAcZb)bN[uczbcf5k?Ib9u?b*&Jo?Bb9m]arvIc9GcznHb,:7hq-alXd!^y)6Kc(abg$a!kebIezEcc(.a!~SPbdisMcC$S
   b,(6b9&wsca!b8BSahgxd9bcaiOgxbub,c7f[c)G.CWadxqMe(a]%Fanczb8a]<Yava!^PgMadczK=ZjFi2b.O<Ynvah.(Ab
   Jf[c5a[!iaYk?U~EanGezb,Bn5adclc%[|uub5aw_f$wbbha3yVe|aY[[jNbGbhf[zB*ja!)%hqg$a]|bHzA|bVqgaaczgjc
   fkgbWbbm$abaz=^b.btf5ldz*d+aragq]ihbha$o<UaY(CbCadbug%$&dRGa!h:yuagar,aCbMCgkclvOTpLKpIc7bJdNb*o
   ~k?ab,ka!a[hAjFaYgje;a!c|Ff+f[UavxqTb*D%>a!%tblclBbl%2bxAhqb,d]r0b>b.n9l5a$KgQe;^dbegja!sCr(y|r7
   c)cjTwc|W]LaZbtDcj(6c7bHbQd?l5z3l5azedgLabFa*aaafbxcXkgb,atajvvBb.a*zEb8pEb4!2xq,a%5bho>VcXnqalg
   xaZd?l5a!e;Fk?fnclZatp<clBuja!^Pb*rBf[cioubYau|^abFk?b8bWyEObrcz(.cZf$dB~y=:+(clbRkEhQpIJaeptWby
   UlIaX=p[Xbxi9TblclPcfbN_vquMd7_i+bOc+X|dibb|a!fWcccCa!+0dJe[b.Ui|aZhqOf6o~f[^yxq[f)6d(Gd=,ab8bv_
   klaXczc=f6;!c?c)~OhtkhabNczgjcfYbyaaa!d2DYgqabf[b,atf[dnK)6b,d]htbyaupIebhtl8auczb5,aalj*kd(6d7Z
   abbtg9r6nOs1g%oP[otepycNe|yQdZNvh,,qMoPlvfhv2yN-y7|,dja)dD]WaY<aoPKcUv2N?ga5tea5%ea5[Va5u!a5,,a&
   k$oP%8a5tea5%ea5[Va5u!a5,,a&!Sg%oP%8a5tea5%ea5[Va5u!a5,,<aoPlvfhv2lC_o5-gpa)k$;D]Wg%;DqMoPpu%8a8
   tea8%edLyQev*B&Cc:(DoPpu%8a8tea8%edLyQev*B&Cc:nOs1g%oPpu%8a8tea8%edLyQev*B&Cc:qMoPlvfhv2g<i8_v0y
   7|,dja)k$;D]Wg%;D<aoPKcUv2g<i8q$!]a7tea7%ea7[Va7u!a7,,a)k$oP%8a7tea7%ea7[Va7u!a7,,]Wg%oP%8a7tea7
   %ea7[Va7u!a7,,<aoPlvfhv2g^i8!fFgra)k$;D]Wg%;DqMoP<!H=g*Ta%!SaYqMoP<!H=g_v2Ns$kg|,dja)dD]WaYqM;D-
   tedZ*B-%edZ*B!CyQ(D;D-tedZ*B-%edZ*B!CyQe$iyfLa!juc(QtKf$dB^:aYcYb>abaad0n|adcJcsS^Qab!PcEzHa[c^f
   6baaZa*dDdB^:aYcYb>abaad0n|adcJcsS^Qab!PcEzHa[c^f6baaZe$iyl1f[aYr6([,[dPgifqj*afWg*eBaif[bNvFcZo
   ^cZa]jdafb>aYe$iydauMuihtbob8(+a!c)bOb%dlBb>>:bbEa]d9CbdclX-=Rd!RgMbCe$iypna!$TfC<Waiclhb;si;.&a
   taZc(xqGbuagb>ezaaAbDtSbbcU*xSe$iytBa!icbQi>)6ihbh<[Zas!hXclbacg_i2Pf[adh5gxciaiabkgbOLbV(6ccCas
   baa[a!fBitm8d!Oaad!^7=Daf%0czu=WDbNbJa!b(cBpIe!gxbhRaslKaaanWa!e?hgpIb!Wb.rFarr7KoWf[![cfgx>;c*]
   *hqg$a]Bh$b)a!edbbzBP+!bHa!b,bPgxbhRas(va!f5nT(nf(bYbHa!bmboAavo>h;pte$vBh[jFeqlKasM.(cfaXd!(.b,
   ;s!jecbQe?e5lKg$Da!hnhUpIb8TcCd!asaYa!?ycDkQtSbbazg)GS:RmR8a!adbrs)g%rB<XhgcZg4bddU!Nh4b.ezal[f^
   <o<a*d?l5z3l5em.he$vBqzf[d(EvDbN,[c7d]bydfd?<Yc+bWjFhDgcc)*O%ijFa[hwclbxaugD!jbBcU+Df5.(adcZJab:
   RlE0a!s5TcU&JvOgMlQ?h|rb4h9dTh=(wdKElscUEpwob(wa!$9t|+qxWcUrEf[blnISe$vBlEa!dTazhT+Qdeh+p$vfi=dT
   a$%nwduZ.$a+bMa!hTnCb.btb$$!VfqWpI=^b$dTSe$vBhaf[gCq$hRbix<;=hXe&nB3x<3nBv>hXe.nB4x<4nBkMhXp:nBd
   Ix<dI;=dIhXegnB5x<5nBtAhXe&5x<f=;=f=hXe.5nBnjx<njnBkM5hXp:5nBdI5x<dI5;=dI5hXfvnB6x<6nBwMhXe&6nBf
   &x<f&;=f&hXe.6nBjR;=jRhXp:6nBdI6x<dI6;=dI6hX-|vdax<da;=dahXe&|v3dax<3|vv>dahXe.|v4dax<4|vkMdahXp
   :|vdIdax<dIdaa!eXf%;w]GeX,6!0aQ?^a>fb,6!0aQ?^aEe,!0a+d~;w]Gfb,6ySaQySn+a>eX,6ySliaQySn+aEe,ySlia
   Ernf%ySq+c.^(eX.A^(fb.AaF)wfb*Z;w]GfblipYfblS.A^(eX.AaF)weXaFrnf%p6lSa!fbnN;w]GeX,6!0aQ?^a>fb,6!
   0aQ?^aEe,!0*Z;w]Gfb,6ySaQySn+a>eX,6ySliaQySn+aEe,ySliaErnf%ySq+c.^(eX.A^(fb.AaF)wfba+d~;w]Gfblip
   YfblS.A^(eX.AaF)weXaFrnf%p6lSa*h9d~&Fp)y>_$Zb4;wa(e,&Fs=a(fb+F&Fa(e,h9fbs=a+:Wm[k%a(fba(c.a(eXa!
   d&?Qz]c6)>e&)>e.)>eg)>fv)>i?a!du?Qz]c6)>e&)>e.)>eg)>fv)>i?om&F?Qz]a5fba)c.a5eXa)fba!du?Qz]bif=8a
   !fbm[k%z]a+>kova,gpa+$Z*EdYdJayova$d~dGk%a+>kova,gpa+$Z*EdYdJaya]cZe,fR:(pLbea&c.a&fba&eXa%gob!a
   &fbsnz]deeXsna2gob!:(pLkP&Fsnz]e$nlqya%e,fR_gob!:(pLkPh9gs$^aZ_$2!fd]a&gob!a$s>dua$:n?^a+d~p6fYa
   *&Fp)y>snz]a&e,h9gs:n:W:(pLbe]aa(eXa.f8a!o~itb9Wb.b4lw,4fblihFlS>amWc.iCh.f%!0aHc.aBfblihFlSfYaT
   mWc.iCh.f%!0hFq+c.aUfba>fblihF,6b>q+d~!0aTmWd~b>lS>amWd~!0hFlS>arnf%!0hFq+c.iCh.f%ySlihFq+d~!0aH
   d~ySlihFlSfYa>p9a8duazd&kIcltl?ebQc=m&a!go.]$^dXomfRe2.qb.bpadxsgo.]lkj>y(cTo2+kdefbdeeX?Qz]a)sD
   defba&lkcSs=a)mBcSomfR_c<[s]ScQf5bQv&p$*Sfo~dbTtS:Iobp$cYh0d~!0a2p9qMdy*uaoalaz?W*5cZe,t5q;d~+oh
   Ta)rna)gsgQ:J~dwCczuccm=;~K_$&b4o|arnwadb.~Nc.~Kitalb|qMbMx:h:VfZcL3bXfL!iGpBbQjOd;aWofracw<Xc(U
   dNb*tcaWofraf&a!tc$hE%Iy]a+$;bv~tuw[5a+d?iIa*|Qa*$w]!r1$t]]]Ya*xFy2qNv;-xD!*d.Ov9kK*w=rdRhkuwhm*
   Ein*Yb2w[C:Gbr%JmC)ra*~Ga*rN!)a*c.u,aj;(a*bm)Ba*?8;b)rr1,Ma*tnd;<c,Ma*k&d!;EgeGaWof7lE0a!j?bvq$c
   Fbi7eE8eE9ga0ga1ga2ga3ga4ga5ga6ga7ga8ga9)+0)+1)+2)+3cMp:)+5)+6)+7)+8)+9%~0%~1%~2%~3%~4%~5%~6%~7%
   ~8%~9),0),1),2),3),4),5+Mda),7),8),9&!0&!1&!2&!3&!4&!5&!6&!7&!8&!9).0).1).2).3).4).5).6).7+MeK).
   9::0+MlZ::2::3+Mm4::5::6::7+Mk*::9>!0+Mof+Mha>!3>!4>!5+Miy>!7>!8+MnleEbXeEbkeEc$eEcAeEcReEcweEdM
   eEf3eEeaeEf0eEwLeEpleEh[eEu2eEkyeEr[eEkzeEu3eEqCeEqDeEqEeElqeEo9eEv>eEkMeEtAeEwMeEs]eEr]eEnFeEm~
   eEfVeEfLeEqFeEdIeEf=eEf&eEgbeEh]eEjQeEqyeEmQeEn!eEu5eEqzeEnjeEjReEnkeEl1eElreEpmeEjpeEh^eEo:eEu6
   eEoeeEdaeEixeEk|eElDeEu7eEyneEyoeE!EeEpneEypeE!FeEpoeEnGeE*,eEv?eEo;eEmReEvAeEu8eEraeElEeEwQeEeK
   eErbeEtBeElZeEtCeEu9eEm4eEu:eEu;eExTeEk*eEs^eE!IeEofeEhaeEq|eEtDeEyreEiyeEvBeExUeEnlgabXgabkgac$
   gacAgacRgacwgadMgaf3gaeagaf0gawLgaplgah[gau2gakygar[gakzgau3gaqCgaqDgaqEgalqgao9gav>gakMgatAgawM
   gas]gar]ganFgam~gafVgafLgaqFgadIgaf=gaf&gagbgah]gajQgaqygamQgan!gau5gaqzganjgajRgankgal1galrgapm
   gajpgah^gao:gau6gaoegadaaW0nOivaW0nOcj;Jo(_edb.cL|aH;Jo(vTe[fFr0X]MvTe[uYa!cfX]Mc*;0Mc5m)hOm$gDa
   !acbcbhY^*a!acQa!m5yHouvIdCa!m5!hq!Tewa!%zf[m5pCccEz>f[cZ.lge?7!ua$du!um]T!u*OBa!t|hnarcL0tSW)Bc
   L0a$q8cL0<XFcL0nOLcL0m$f6a!t|bD?7i,a$d&i,(B(6jl:Aare$jFFd!tYdNb*jeexcL3d!RtR~ytqcL**gCb.qB~ydPcL
   4|atR~yaacL5a!gCb.qB~y<PcL5a!b%a!c2bDe*r9dJgLauEcL6uMr7be]9+[<UcL7uMC1uN]9+[%EcL8uMC2uN]9+[_g=cL
   9uMC3uN]9+[]CfF0uMC4tS:Im5yHouvIfF1a!|nczrtbCfZ><f5aXfF2czrt]Mc*;0Mc5m)z]fF3a!cfBd!;EfF4d!ad]M:(
   fF5m$at&+bbaii;yO&+a!|yauE:ja!|ytQ>Xqw]C+m]IaXqw+mjFcZaa>Xqw_g=&Ak?(bqw&Ak?cZaa>Xqw%EaWm~a!kEt^q
   waWm~*NcZaa>Xqw<U!wa!.rqw!wa!cCczP>EuNaXbx>Ea!lRez|AcU.le$8ezc)a!f|cebwtGPalkF:Rm]bdf[algkn9Maif
   rHi<cLm~f[cva!dzboalgkoji<cLfVnOBHa!hTcLfLtQDtSXb$lacLqFnOe;;Jo(q$c>bQabEAcLdIa!b|A]Mq$c>bQabEAc
   Lf=a!djAwcy!ge?7afcfcLf&a%ducLf&m]TcZ.lge?7azJcCao(nf(cLgba&ducLgbm]TJa!t|bD?7afcfcLh]a%d&cLh](B
   TcZhbaoaYe*ss:fcLjQ]fcLjQa!e?D$SaoaYe*ss,+cdcLqy]ccLqyezd(a!rNe*sshnarcLmQa*hTcLmQa!bNczhPaffpFb
   $e=cLn!czhPqBjrTc6cLn!a!b|2czhPaffpFb$g=cLu5czhPqBjrTe&cLu5a!b|3uN]9+[caiccLqzuMCcZPbNV+>%A<UcLn
   ja*%AbicLnjezU1ezbNV+>%A%EcLjRa*%Ac6cLjReznM!ib$T;0MaiafbDbxcLnkr0yE;EpGy!cLl1d!bC(Cb|&1s&aib.cL
   lrgxW;Jo(dBUbHbQabEAcLpma3*CbxbwarcLpmczib]MdBUbHbQabEAcLjpa3*CbxbwarcLjpa!dfA;Jo(caiccLh^|a>)hP
   dBeFlT.l_dwb,hwCaZcLo:czGCcz+&.l_dwb,hwCaZcLu6czwRd!+[q$bco!b*dwb,hwCaZcLoed!b%r0vMahmVg]cLdar0a
   !bdaZbr+%Ybbc%uuMb>cLixa!d9CezbNVcckgbVb|&1cLk|ezMa!au&8qbGeJuuMb>cLlDa!auCnOBpCcLvAtRYhOqC?cGbG
   uRaWm47d!GJcLda**uZcL8bkczrucco%?M+3afdAxjfY!vtD<WzHc)Ab0d]b(!xmQa!b(Ob0c<cma[!xu5jcey!xnkpy!xlr
   (HhO)3]Hc7uGdXbocI-([GdBIbpGctRGglhO5k*m])!rwjd=J_c3y,-ka,K-hjkasqc3y,,K-u~dC1oejFVS1jFVS2jFVS3g
   xVcZFVS4aWtCcAz2WpCz2c:Jz2WJ<XRM*NLMaWtCdI<Xal*NaXezDF<Xb,*Nb8nONBpCz>r]7gxMpClKJz>nF**LbN*Nc+jF
   b%ezbaaWm4mRa!c0IaZ=flze;rEhscm=[(Rk*gxbuR_k3cC>Vmji,1m~on&[i+zli,1fL*V,.hOf0lZa!mZ;S,e&>hOf&m~g
   xgl<;ww~ge*b($M)3ezq&awf(,*iY]Dn+p3^Jjin7|prbf[YTb*asqHdX|prbf[at|prbz2c:BpCewqzh^d!bLEIjlc,cDUp
   lj0z[cDUpl|8h=|8aWq|eK2a!dvvFAf5RaamCe<cW!uh]kyi7e<cWi,cwq|m]awAael+b0Ebii,s^lZf[YZe5ss>hf!cma]u
   d^>Lbhk3bCj+hKl$h|"

end ClassTidy.Text.CharacterName
